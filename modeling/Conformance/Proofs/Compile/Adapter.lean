import Conformance.Compile.Adapter
import Conformance.Proofs.Session

/-!
# Runs of adapters

Every operation of an adapter asks its compiler at most once.  How the operation ends is known from the
reply alone, and the session that it leaves from the reply and the session before.

Main results:

- `Adapter.runOn_create_cases`: a compiler is built, and adapted if it can compile.
- `Adapter.runOn_prepare`, `Adapter.runOn_shutdown`: the run of an operation that a compiler may lack.
- `Adapter.runOn_compile_cases`: the run of a compilation, in either mode.
- `Adapter.isRejected_compile_iff`: when a compilation is rejected.
- `Adapter.runOn_compile_answers`: one request for each source, and the answer to its reply.
- `Adapter.adapt_contract`: the same for every compiler, whatever operations it offers.
-/

namespace Conformance

/-! ## Sessions -/

namespace Session

variable {α : Type}

/-- The session after the construction of a compiler. -/
def afterBuild (s : Session) : Session :=
  { s with trace := .built s.trace.nextNumber :: s.trace }

/-- The session after a compiler has replied to a request. -/
def afterReply (s : Session) (b : Built) (request : Request) (reply : Reply α) : Session where
  clock := s.clock + reply.elapsed
  log := reply.log.reverse ++ s.log
  trace := .asked b.number b.compiler.typeName request :: s.trace

@[simp]
theorem trace_afterBuild (s : Session) :
    s.afterBuild.trace = .built s.trace.nextNumber :: s.trace :=
  rfl

theorem clock_afterReply (s : Session) (b : Built) (request : Request) (reply : Reply α) :
    (s.afterReply b request reply).clock = s.clock + reply.elapsed :=
  rfl

/-- The time between a request and its reply is the time that the reply took. -/
@[simp]
theorem clock_afterReply_sub (s : Session) (b : Built) (request : Request) (reply : Reply α) :
    (s.afterReply b request reply).clock - s.clock = reply.elapsed := by
  rw [clock_afterReply]
  omega

@[simp]
theorem trace_afterReply (s : Session) (b : Built) (request : Request) (reply : Reply α) :
    (s.afterReply b request reply).trace = .asked b.number b.compiler.typeName request :: s.trace :=
  rfl

end Session

theorem Built.runOn_ask {α : Type} (b : Built) (request : Request) (behaviour : Trace → Reply α)
    (s : Session) :
    (b.ask request behaviour).runOn s =
      ((behaviour s.trace).ending, s.afterReply b request (behaviour s.trace)) :=
  rfl

/-! ## Operations -/

namespace Slot

variable {β : Type}

theorem isCallable_iff {slot : Slot β} :
    slot.isCallable = true ↔ ∃ behaviour, slot = .callable behaviour := by
  cases slot with
  | missing => exact ⟨fun h => absurd h Bool.false_ne_true, fun ⟨_, h⟩ => nomatch h⟩
  | «attribute» => exact ⟨fun h => absurd h Bool.false_ne_true, fun ⟨_, h⟩ => nomatch h⟩
  | callable behaviour => exact ⟨fun _ => ⟨behaviour, rfl⟩, fun _ => rfl⟩

/-- The requests that a compiler gets for an operation that it may lack. -/
def requests (slot : Slot β) (request : Request) : List Request :=
  if slot.isCallable then [request] else []

end Slot

namespace Compiler

/-- A compiler can compile if it offers either of the operations for that. -/
def CanCompile (c : Compiler) : Prop :=
  c.compileAdvanced.isCallable = true ∨ c.compile.isCallable = true

/-- The request by which a compiler compiles a source.  The advanced operation comes first. -/
def compileRequest (c : Compiler) (source : Text) : Request :=
  if c.compileAdvanced.isCallable then .compileAdvanced source else .compile source

/-- A compiler is ready if it has nothing to prepare, or if preparing it succeeds. -/
def ReadyAfter (c : Compiler) (trace : Trace) : Prop :=
  ∀ behaviour, c.prepare = .callable behaviour → (behaviour trace).ending = .ok ()

/-- A compiler that returns results rejects a source unless it returns a successful one; any other compiler
rejects a source by failing. -/
inductive Rejects (c : Compiler) (trace : Trace) (source : Text) : Prop
  | advanced {behaviour : Trace → Text → Reply (Returned CompileResult)} :
      c.compileAdvanced = .callable behaviour →
        (∀ result, (behaviour trace source).ending = .ok (.expected result) → result.success = false) →
        Rejects c trace source
  | simple {behaviour : Trace → Text → Reply Unit} :
      c.compileAdvanced.isCallable = false → c.compile = .callable behaviour →
        (behaviour trace source).ending ≠ .ok () → Rejects c trace source

end Compiler

/-! ## Failures -/

namespace Failure

/-- A failure that no rejection is made of: resources are exhausted, the host is broken, or nothing but the
outermost layer takes it up. -/
inductive Passes (f : Failure) : Prop
  | exhausted : f.family = .exhausted → Passes f
  | host : f.family = .host → Passes f
  | interrupt : f.family = .interrupt → Passes f
  | fatal : f.family = .fatal → Passes f

theorem passes_iff {f : Failure} : f.Passes ↔ (f.isHostFailure || !f.isOrdinary) = true := by
  constructor
  · rintro (h | h | h | h) <;> simp [isHostFailure, isOrdinary, h]
  · intro h
    simp only [isHostFailure, isOrdinary, Bool.or_eq_true, beq_iff_eq, Bool.not_eq_true', Bool.and_eq_false_iff,
      bne_eq_false_iff_eq] at h
    rcases h with (h | h) | (h | h)
    · exact .exhausted h
    · exact .host h
    · exact .interrupt h
    · exact .fatal h

end Failure

namespace Adapter

variable {a : Adapter} {b : Built}

/-! ## Building -/

theorem adapt_eq_ok_iff :
    adapt b = .ok a ↔ a.built = b ∧ Capabilities.negotiate b.compiler = .ok a.capabilities := by
  rcases a with ⟨built, capabilities⟩
  unfold adapt
  cases Capabilities.negotiate b.compiler with
  | error f =>
      constructor
      · intro h
        cases h
      · rintro ⟨-, h⟩
        cases h
  | ok found =>
      constructor
      · intro h
        cases h
        exact ⟨rfl, rfl⟩
      · rintro ⟨rfl, h⟩
        cases h
        rfl

/-- An adapter uses the advanced operation of its compiler, or the simple one if there is no other. -/
theorem mode_of_adapt (h : adapt b = .ok a) :
    (a.capabilities.mode = .advanced ∧ b.compiler.compileAdvanced.isCallable = true) ∨
      (a.capabilities.mode = .simple ∧ b.compiler.compileAdvanced.isCallable = false ∧
        b.compiler.compile.isCallable = true) := by
  have hnegotiate := (adapt_eq_ok_iff.mp h).2
  unfold Capabilities.negotiate Capabilities.modeOf? at hnegotiate
  by_cases hadvanced : b.compiler.compileAdvanced.isCallable = true
  · rw [if_pos hadvanced] at hnegotiate
    exact .inl ⟨congrArg Capabilities.mode (Except.ok.inj hnegotiate).symm, hadvanced⟩
  · rw [if_neg hadvanced] at hnegotiate
    by_cases hsimple : b.compiler.compile.isCallable = true
    · rw [if_pos hsimple] at hnegotiate
      refine .inr ⟨congrArg Capabilities.mode (Except.ok.inj hnegotiate).symm, ?_, hsimple⟩
      exact Bool.eq_false_iff.mpr hadvanced
    · rw [if_neg hsimple] at hnegotiate
      cases hnegotiate

theorem canCompile_of_adapt (h : adapt b = .ok a) : b.compiler.CanCompile := by
  rcases mode_of_adapt h with ⟨-, hadvanced⟩ | ⟨-, -, hsimple⟩
  · exact .inl hadvanced
  · exact .inr hsimple

/-- A compiler that cannot be adapted has no operation to compile with. -/
theorem not_canCompile_of_adapt {f : Failure} (h : adapt b = .error f) : ¬b.compiler.CanCompile := by
  unfold adapt Capabilities.negotiate Capabilities.modeOf? at h
  intro hcan
  by_cases hadvanced : b.compiler.compileAdvanced.isCallable = true
  · rw [if_pos hadvanced] at h
    cases h
  · rw [if_neg hadvanced, if_pos (hcan.resolve_left hadvanced)] at h
    cases h

/-- A compiler is built in any case, and adapted if its construction succeeds and it can compile. -/
theorem runOn_create (factory : Factory) (s : Session) :
    (create factory).runOn s =
      ((factory s.trace).bind fun c => adapt ⟨s.trace.nextNumber, c⟩, s.afterBuild) := by
  unfold create Factory.build
  simp only [Act.runOn_bind, Act.runOn_get, Act.runOn_happen, Act.runOn_ofExcept]
  cases factory s.trace <;> rfl

/-- The three ways in which building and adapting a compiler ends. -/
theorem runOn_create_cases (factory : Factory) (s : Session) :
    (∃ f, factory s.trace = .error f ∧ (create factory).runOn s = (.error f, s.afterBuild)) ∨
    (∃ c f, factory s.trace = .ok c ∧ ¬c.CanCompile ∧
      (create factory).runOn s = (.error f, s.afterBuild)) ∨
    ∃ c a, factory s.trace = .ok c ∧ c.CanCompile ∧ adapt ⟨s.trace.nextNumber, c⟩ = .ok a ∧
      (create factory).runOn s = (.ok a, s.afterBuild) := by
  rw [runOn_create]
  cases factory s.trace with
  | error f => exact .inl ⟨f, rfl, rfl⟩
  | ok c =>
      cases hadapt : adapt ⟨s.trace.nextNumber, c⟩ with
      | error f =>
          refine .inr (.inl ⟨c, f, rfl, not_canCompile_of_adapt hadapt, ?_⟩)
          rw [Except.bind, hadapt]
      | ok a =>
          refine .inr (.inr ⟨c, a, rfl, canCompile_of_adapt hadapt, hadapt, ?_⟩)
          rw [Except.bind, hadapt]

theorem adapt_of_runOn_create {factory : Factory} {s s' : Session}
    (h : (create factory).runOn s = (.ok a, s')) : ∃ c, adapt ⟨s.trace.nextNumber, c⟩ = .ok a := by
  rcases runOn_create_cases factory s with
    ⟨f, -, hrun⟩ | ⟨c, f, -, -, hrun⟩ | ⟨c, a', -, -, hadapt, hrun⟩
  · cases hrun.symm.trans h
  · cases hrun.symm.trans h
  · cases hrun.symm.trans h
    exact ⟨c, hadapt⟩

/-! ## Preparing and releasing -/

/-- How an operation ends that a compiler may lack, and the session that it leaves. -/
def runOptional (a : Adapter) (slot : Slot (Trace → Reply Unit)) (request : Request) (s : Session) :
    Except Failure Unit × Session :=
  match slot with
  | .callable behaviour =>
    ((behaviour s.trace).ending, s.afterReply a.built request (behaviour s.trace))
  | .missing | .attribute => (.ok (), s)

theorem runOn_prepare (a : Adapter) (s : Session) :
    a.prepare.runOn s = a.runOptional a.compiler.prepare .prepare s := by
  unfold prepare
  cases a.compiler.prepare <;> rfl

theorem runOn_shutdown (a : Adapter) (s : Session) :
    a.shutdown.runOn s = a.runOptional a.compiler.shutdown .shutdown s := by
  unfold shutdown
  cases a.compiler.shutdown <;> rfl

/-! ## Compiling -/

/-- How a compilation ends with a reply of the advanced kind. -/
def advancedEnding (a : Adapter) (reply : Reply (Returned CompileResult)) :
    Except Failure CompileResult :=
  match reply.ending with
  | .ok (.expected result) => .ok (withTime result reply.elapsed)
  | .ok (.other typeName) =>
    .error (.host (a.compiler.typeName ++ ".compile_advanced returned " ++ typeName ++ ", " ++
      "expected CompileResult"))
  | .error f => .error f

/-- How a compilation ends with a reply of the simple kind. -/
def simpleEnding (source : Text) (reply : Reply Unit) : Except Failure CompileResult :=
  match reply.ending with
  | .ok () => .ok (simpleAccepted source reply.elapsed)
  | .error f =>
    if f.isHostFailure || !f.isOrdinary then .error f else .ok (simpleRejected f reply.elapsed)

theorem runOn_compileAdvanced (a : Adapter) (source : Text)
    (behaviour : Trace → Text → Reply (Returned CompileResult)) (s : Session) :
    (a.compileAdvanced source behaviour).runOn s =
      (a.advancedEnding (behaviour s.trace source),
        s.afterReply a.built (.compileAdvanced source) (behaviour s.trace source)) := by
  unfold compileAdvanced advancedEnding
  simp only [Act.runOn_bind, Act.runOn_get, Built.runOn_ask]
  rcases (behaviour s.trace source).ending with f | (result | typeName)
  · rfl
  · simp
  · rfl

theorem runOn_compileSimple (a : Adapter) (source : Text) (behaviour : Trace → Text → Reply Unit)
    (s : Session) :
    (a.compileSimple source behaviour).runOn s =
      (simpleEnding source (behaviour s.trace source),
        s.afterReply a.built (.compile source) (behaviour s.trace source)) := by
  unfold compileSimple simpleEnding
  simp only [Act.runOn_bind, Act.runOn_get, Act.runOn_attempt, Built.runOn_ask]
  rcases (behaviour s.trace source).ending with f | -
  · by_cases hf : (f.isHostFailure || !f.isOrdinary) = true
    · simp [hf]
    · simp [hf]
  · simp

/-- A compilation asks for the operation that the compiler was adapted to. -/
theorem runOn_compile_cases (h : adapt b = .ok a) (source : Text) (s : Session) :
    (∃ behaviour, a.compiler.compileAdvanced = .callable behaviour ∧
      (a.compile source).runOn s =
        (a.advancedEnding (behaviour s.trace source),
          s.afterReply a.built (.compileAdvanced source) (behaviour s.trace source))) ∨
    ∃ behaviour, a.compiler.compileAdvanced.isCallable = false ∧
      a.compiler.compile = .callable behaviour ∧
      (a.compile source).runOn s =
        (simpleEnding source (behaviour s.trace source),
          s.afterReply a.built (.compile source) (behaviour s.trace source)) := by
  have hbuilt : a.compiler = b.compiler := congrArg Built.compiler (adapt_eq_ok_iff.mp h).1
  unfold compile
  rw [hbuilt]
  rcases mode_of_adapt h with ⟨hmode, hadvanced⟩ | ⟨hmode, hadvanced, hsimple⟩
  · obtain ⟨behaviour, hbehaviour⟩ := Slot.isCallable_iff.mp hadvanced
    refine .inl ⟨behaviour, hbehaviour, ?_⟩
    rw [hmode, hbehaviour]
    exact runOn_compileAdvanced a source behaviour s
  · obtain ⟨behaviour, hbehaviour⟩ := Slot.isCallable_iff.mp hsimple
    refine .inr ⟨behaviour, hadvanced, hbehaviour, ?_⟩
    rw [hmode, hbehaviour]
    exact runOn_compileSimple a source behaviour s

/-- Whether a compilation was rejected: it failed, or its result is no success. -/
def isRejected : Except Failure CompileResult → Bool
  | .ok result => !result.success
  | .error _ => true

theorem isRejected_iff {ending : Except Failure CompileResult} :
    isRejected ending = true ↔ ∀ result, ending = .ok result → result.success = false := by
  cases ending <;> simp [isRejected]

theorem success_withTime (result : CompileResult) (elapsed : Int) :
    (withTime result elapsed).success = result.success := by
  unfold withTime
  split <;> rfl

theorem isRejected_advancedEnding_iff {reply : Reply (Returned CompileResult)} :
    isRejected (a.advancedEnding reply) = true ↔
      ∀ result, reply.ending = .ok (.expected result) → result.success = false := by
  unfold advancedEnding
  rcases reply.ending with f | (result | typeName)
  · simp [isRejected]
  · simp [isRejected, success_withTime]
  · simp [isRejected]

theorem isRejected_simpleEnding_iff {source : Text} {reply : Reply Unit} :
    isRejected (simpleEnding source reply) = true ↔ reply.ending ≠ .ok () := by
  unfold simpleEnding
  rcases reply.ending with f | -
  · by_cases hf : (f.isHostFailure || !f.isOrdinary) = true
    · simp [hf, isRejected]
    · simp [hf, isRejected, simpleRejected, CompileResult.rejected]
  · simp [isRejected, simpleAccepted, CompileResult.accepted]

/-- A compilation is rejected exactly if the compiler rejects the source. -/
theorem isRejected_compile_iff (h : adapt b = .ok a) (source : Text) (s : Session) :
    isRejected ((a.compile source).runOn s).1 = true ↔ a.compiler.Rejects s.trace source := by
  rcases runOn_compile_cases h source s with
    ⟨behaviour, hadvanced, hrun⟩ | ⟨behaviour, hadvanced, hsimple, hrun⟩
  · rw [hrun, isRejected_advancedEnding_iff]
    refine ⟨.advanced hadvanced, ?_⟩
    intro hrejects
    cases hrejects with
    | advanced hslot hending =>
        cases hadvanced.symm.trans hslot
        exact hending
    | simple hslot =>
        rw [hadvanced] at hslot
        cases hslot
  · rw [hrun, isRejected_simpleEnding_iff]
    refine ⟨.simple hadvanced hsimple, ?_⟩
    intro hrejects
    cases hrejects with
    | advanced hslot =>
        rw [hslot] at hadvanced
        cases hadvanced
    | simple _ hslot hending =>
        cases hsimple.symm.trans hslot
        exact hending

/-! ## Answers -/

/-- What is answered when a compiler that returns results has replied.  A result keeps all that it says, but
for a time that the compiler did not measure. -/
inductive AdvancedAnswer (elapsed : Int) :
    Except Failure (Returned CompileResult) → Except Failure CompileResult → Prop
  | measured {result : CompileResult} : result.metrics.compileTimeNs ≠ 0 →
      AdvancedAnswer elapsed (.ok (.expected result)) (.ok result)
  | unmeasured {result : CompileResult} : result.metrics.compileTimeNs = 0 →
      AdvancedAnswer elapsed (.ok (.expected result))
        (.ok { result with metrics := { result.metrics with compileTimeNs := elapsed } })
  | other {typeName message : Text} :
      AdvancedAnswer elapsed (.ok (.other typeName)) (.error (.host message))
  | failed {f : Failure} : AdvancedAnswer elapsed (.error f) (.error f)

/-- What is answered when a compiler that fails on what it rejects has replied. -/
inductive SimpleAnswer (source : Text) (elapsed : Int) :
    Except Failure Unit → Except Failure CompileResult → Prop
  | accepted {result : CompileResult} : result.success = true → result.errors = [] → result.warnings = [] →
      result.metrics.linesProcessed = source.toList.count (.char '\n') + 1 →
        result.metrics.compileTimeNs = elapsed → SimpleAnswer source elapsed (.ok ()) (.ok result)
  | rejected {f : Failure} {result : CompileResult} {error : CompileError} : ¬f.Passes →
      result.success = false → result.errors = [error] → error.category = .syntactic → result.warnings = [] →
        result.metrics.compileTimeNs = elapsed → SimpleAnswer source elapsed (.error f) (.ok result)
  | passed {f : Failure} : f.Passes → SimpleAnswer source elapsed (.error f) (.error f)

theorem advancedAnswer_withTime (result : CompileResult) (elapsed : Int) :
    AdvancedAnswer elapsed (.ok (.expected result)) (.ok (withTime result elapsed)) := by
  unfold withTime
  split
  · rename_i hzero
    exact .unmeasured hzero
  · rename_i hmeasured
    exact .measured hmeasured

theorem advancedAnswer_advancedEnding (a : Adapter) (reply : Reply (Returned CompileResult)) :
    AdvancedAnswer reply.elapsed reply.ending (a.advancedEnding reply) := by
  unfold advancedEnding
  rcases reply.ending with f | (result | typeName)
  · exact .failed
  · exact advancedAnswer_withTime result reply.elapsed
  · exact .other

theorem simpleAnswer_simpleEnding (source : Text) (reply : Reply Unit) :
    SimpleAnswer source reply.elapsed reply.ending (simpleEnding source reply) := by
  unfold simpleEnding
  rcases reply.ending with f | -
  · change SimpleAnswer source reply.elapsed (.error f) (if f.isHostFailure || !f.isOrdinary then _ else _)
    split
    · rename_i hpasses
      exact .passed (Failure.passes_iff.mpr hpasses)
    · rename_i hrejected
      exact .rejected (fun hpasses => hrejected (Failure.passes_iff.mp hpasses)) rfl rfl rfl rfl rfl
  · exact .accepted rfl rfl rfl rfl rfl

/-! ## The contract -/

/-- An answer to a source, for the reply of the operation that a compiler is asked for.  The advanced operation
is asked for whenever it can be. -/
inductive Answers (c : Compiler) (trace : Trace) (source : Text) (elapsed : Int) :
    Except Failure CompileResult → Prop
  | advanced {behaviour : Trace → Text → Reply (Returned CompileResult)}
      {ending : Except Failure CompileResult} : c.compileAdvanced = .callable behaviour →
        AdvancedAnswer elapsed (behaviour trace source).ending ending → Answers c trace source elapsed ending
  | simple {behaviour : Trace → Text → Reply Unit} {ending : Except Failure CompileResult} :
      c.compileAdvanced.isCallable = false → c.compile = .callable behaviour →
        SimpleAnswer source elapsed (behaviour trace source).ending ending → Answers c trace source elapsed ending

/-- A compilation asks its compiler once, for one operation, and answers what that operation replied. -/
theorem runOn_compile_answers (h : adapt b = .ok a) (source : Text) (s : Session) :
    ((a.compile source).runOn s).2.trace =
        .asked b.number b.compiler.typeName (b.compiler.compileRequest source) :: s.trace ∧
      Answers b.compiler s.trace source (((a.compile source).runOn s).2.clock - s.clock)
        ((a.compile source).runOn s).1 := by
  obtain ⟨rfl, -⟩ := adapt_eq_ok_iff.mp h
  rcases runOn_compile_cases h source s with
    ⟨behaviour, hadvanced, hrun⟩ | ⟨behaviour, hadvanced, hsimple, hrun⟩
  · have hrequest : a.compiler.compileRequest source = .compileAdvanced source := by
      rw [Compiler.compileRequest, hadvanced]
      rfl
    rw [hrun, Session.clock_afterReply_sub]
    refine ⟨?_, .advanced hadvanced (advancedAnswer_advancedEnding a _)⟩
    exact congrArg (fun request => Event.asked _ _ request :: s.trace) hrequest.symm
  · have hrequest : a.compiler.compileRequest source = .compile source := by
      rw [Compiler.compileRequest, hadvanced]
      rfl
    rw [hrun, Session.clock_afterReply_sub]
    refine ⟨?_, .simple hadvanced hsimple (simpleAnswer_simpleEnding source _)⟩
    exact congrArg (fun request => Event.asked _ _ request :: s.trace) hrequest.symm

theorem adapt_of_not_canCompile (h : ¬b.compiler.CanCompile) :
    adapt b = .error (.unadaptable (b.compiler.typeName ++ " exposes no compatible compile operation")) := by
  have hmode : Capabilities.modeOf? b.compiler = none := by
    unfold Capabilities.modeOf?
    rw [if_neg fun hadvanced => h (.inl hadvanced), if_neg fun hsimple => h (.inr hsimple)]
  unfold adapt Capabilities.negotiate
  rw [hmode]
  rfl

/-- Every compiler is refused for having no operation to compile with, or is adapted; it is then asked for one
operation, once for each source, and its reply decides the answer. -/
theorem adapt_contract (b : Built) :
    (¬b.compiler.CanCompile ∧ ∃ message, adapt b = .error (.unadaptable message)) ∨
      b.compiler.CanCompile ∧ ∃ a, adapt b = .ok a ∧ ∀ source s,
        ((a.compile source).runOn s).2.trace =
            .asked b.number b.compiler.typeName (b.compiler.compileRequest source) :: s.trace ∧
          Answers b.compiler s.trace source (((a.compile source).runOn s).2.clock - s.clock)
            ((a.compile source).runOn s).1 := by
  cases hadapt : adapt b with
  | ok a => exact .inr ⟨canCompile_of_adapt hadapt, a, rfl, runOn_compile_answers hadapt⟩
  | error f =>
      have hcannot : ¬b.compiler.CanCompile := not_canCompile_of_adapt hadapt
      exact .inl ⟨hcannot, _, hadapt.symm.trans (adapt_of_not_canCompile hcannot)⟩

end Adapter

end Conformance
