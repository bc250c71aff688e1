import Conformance.Proofs.Run.Case

/-!
# Copies of compilers

A factory is independent if the compilers that it builds are copies of one another: how one of them ends what
it is asked for depends on nothing but what it has been asked before.  The time that it takes, and what it
notes, may be different every time.  With such a factory, what has happened before a case does not matter for
how the case ends.

Main results:

- `Act.Alike.bind`: what two runs have in common is kept from one action to the next.
- `Runner.alike_create`: an independent factory gives compilers that are adapted in the same way.
- `Runner.ending_execute`: a case ends in the same way in every session.
-/

namespace Conformance

/-! ## Pairs of runs -/

/-- Two endings are alike: they are the same failure, or values that are related. -/
inductive EndAlike {α β : Type} (R : α → β → Prop) : Except Failure α → Except Failure β → Prop
  | failed (f : Failure) : EndAlike R (.error f) (.error f)
  | done {a : α} {b : β} : R a b → EndAlike R (.ok a) (.ok b)

/-- Endings that are the same are alike. -/
theorem EndAlike.of_eq {α : Type} {ending ending' : Except Failure α} (h : ending = ending') :
    EndAlike Eq ending ending' := by
  subst h
  cases ending with
  | error f => exact .failed f
  | ok a => exact .done rfl

/-- The compilers with the given numbers have been asked the same since they were built. -/
def Session.AskedAlike (n n' : Nat) (s s' : Session) : Prop :=
  s.trace.requests n = s'.trace.requests n'

/-- Two actions are alike for two compilers: if both have been asked the same before, then the actions end
alike, and both have been asked the same behind them. -/
def Act.Alike {α β : Type} (n n' : Nat) (R : α → β → Prop) (x : Act α) (x' : Act β) : Prop :=
  ∀ s s', Session.AskedAlike n n' s s' →
    EndAlike R (x.runOn s).1 (x'.runOn s').1 ∧
      Session.AskedAlike n n' (x.runOn s).2 (x'.runOn s').2

namespace Act.Alike

variable {α β α' β' : Type} {n n' : Nat} {R : α → α' → Prop} {S : β → β' → Prop}
  {x : Act α} {x' : Act α'}

theorem pure {a : α} {a' : α'} (h : R a a') :
    Act.Alike n n' R (Pure.pure a : Act α) (Pure.pure a' : Act α') := by
  intro s s' hasked
  exact ⟨.done h, hasked⟩

theorem throw (f : Failure) : Act.Alike n n' R (MonadExcept.throw f : Act α) (MonadExcept.throw f) := by
  intro s s' hasked
  exact ⟨.failed f, hasked⟩

theorem ofExcept {ending : Except Failure α} {ending' : Except Failure α'}
    (h : EndAlike R ending ending') : Act.Alike n n' R (Act.ofExcept ending) (Act.ofExcept ending') := by
  intro s s' hasked
  exact ⟨h, hasked⟩

/-- What is noted does not matter. -/
theorem note (record record' : LogRecord) : Act.Alike n n' Eq (Act.note record) (Act.note record') := by
  intro s s' hasked
  exact ⟨.done rfl, hasked⟩

theorem attempt (h : Act.Alike n n' R x x') : Act.Alike n n' (EndAlike R) x.attempt x'.attempt := by
  intro s s' hasked
  obtain ⟨hending, hleft⟩ := h s s' hasked
  exact ⟨.done hending, hleft⟩

/-- What two runs have in common is kept from one action to the next. -/
theorem bind {k : α → Act β} {k' : α' → Act β'} (hx : Act.Alike n n' R x x')
    (hk : ∀ a a', R a a' → Act.Alike n n' S (k a) (k' a')) :
    Act.Alike n n' S (x >>= k) (x' >>= k') := by
  intro s s' hasked
  obtain ⟨hending, hleft⟩ := hx s s' hasked
  rw [Act.runOn_bind, Act.runOn_bind]
  rcases hrun : x.runOn s with ⟨ending, left⟩
  rcases hrun' : x'.runOn s' with ⟨ending', left'⟩
  rw [hrun, hrun'] at hending hleft
  cases hending with
  | failed f => exact ⟨.failed f, hleft⟩
  | done ha => exact hk _ _ ha left left' hleft

end Act.Alike

/-! ## Copies -/

/-- Two operations are alike: both are lacking, or both can be called and behave alike. -/
inductive Slot.Alike {β : Type} (R : β → β → Prop) : Slot β → Slot β → Prop
  | missing : Alike R .missing .missing
  | «attribute» : Alike R .attribute .attribute
  | callable {b b' : β} : R b b' → Alike R (.callable b) (.callable b')

theorem Slot.Alike.isCallable_eq {β : Type} {R : β → β → Prop} {slot slot' : Slot β}
    (h : slot.Alike R slot') : slot.isCallable = slot'.isCallable := by
  cases h <;> rfl

/-- Two behaviours end alike whenever both compilers have been asked the same before. -/
def Reply.EndAlike {α : Type} (n n' : Nat) (behaviour behaviour' : Trace → Reply α) : Prop :=
  ∀ t t', t.requests n = t'.requests n' → (behaviour t).ending = (behaviour' t').ending

/-- Two compilers are copies, as far as cases are run with them: they have the same type and the same
operations, and how an operation ends depends on nothing but what the compiler has been asked before. -/
structure Compiler.Copies (n n' : Nat) (c c' : Compiler) : Prop where
  typeName : c.typeName = c'.typeName
  prepare : c.prepare.Alike (Reply.EndAlike n n') c'.prepare
  compileAdvanced : c.compileAdvanced.Alike
    (fun b b' => ∀ source, Reply.EndAlike n n' (b · source) (b' · source)) c'.compileAdvanced
  compile : c.compile.Alike
    (fun b b' => ∀ source, Reply.EndAlike n n' (b · source) (b' · source)) c'.compile
  shutdown : c.shutdown.Alike (Reply.EndAlike n n') c'.shutdown

/-- Whatever has happened before, a factory builds copies of the same compiler, or fails in the same way. -/
def Factory.Independent (factory : Factory) : Prop :=
  ∀ t t', EndAlike (Compiler.Copies t.nextNumber t'.nextNumber) (factory t) (factory t')

/-- Two adapters of copies that were adapted in the same way. -/
structure Adapter.Copies (n n' : Nat) (a a' : Adapter) : Prop where
  number : a.built.number = n
  number' : a'.built.number = n'
  compiler : a.compiler.Copies n n' a'.compiler
  mode : a.capabilities.mode = a'.capabilities.mode

/-! ## Operations -/

/-- Two results give the same verdict. -/
structure CompileResult.SameVerdict (r r' : CompileResult) : Prop where
  success : r.success = r'.success
  errors : r.errors = r'.errors

namespace Adapter

variable {n n' : Nat} {a a' : Adapter}

/-- Requests that copies answer alike leave the copies alike. -/
theorem askedAlike_afterReply {α : Type} (h : a.Copies n n' a') (request : Request) {s s' : Session}
    (reply reply' : Reply α) (hasked : Session.AskedAlike n n' s s') :
    Session.AskedAlike n n' (s.afterReply a.built request reply)
      (s'.afterReply a'.built request reply') := by
  unfold Session.AskedAlike at hasked ⊢
  rw [Session.trace_afterReply, Session.trace_afterReply, h.number, h.number',
    Trace.requests_asked_self, Trace.requests_asked_self, hasked]

theorem alike_runOptional (h : a.Copies n n' a') {slot slot' : Slot (Trace → Reply Unit)}
    (hslot : slot.Alike (Reply.EndAlike n n') slot') (request : Request) {s s' : Session}
    (hasked : Session.AskedAlike n n' s s') :
    EndAlike Eq (a.runOptional slot request s).1 (a'.runOptional slot' request s').1 ∧
      Session.AskedAlike n n' (a.runOptional slot request s).2 (a'.runOptional slot' request s').2 := by
  cases hslot with
  | missing => exact ⟨.done rfl, hasked⟩
  | «attribute» => exact ⟨.done rfl, hasked⟩
  | callable hbehaviour =>
      exact ⟨.of_eq (hbehaviour _ _ hasked), askedAlike_afterReply h request _ _ hasked⟩

theorem alike_prepare (h : a.Copies n n' a') : Act.Alike n n' Eq a.prepare a'.prepare := by
  intro s s' hasked
  rw [runOn_prepare, runOn_prepare]
  exact alike_runOptional h h.compiler.prepare .prepare hasked

theorem alike_shutdown (h : a.Copies n n' a') : Act.Alike n n' Eq a.shutdown a'.shutdown := by
  intro s s' hasked
  rw [runOn_shutdown, runOn_shutdown]
  exact alike_runOptional h h.compiler.shutdown .shutdown hasked

/-- The time that a compilation takes does not matter for its verdict. -/
theorem sameVerdict_withTime (result : CompileResult) (elapsed elapsed' : Int) :
    (withTime result elapsed).SameVerdict (withTime result elapsed') := by
  unfold withTime
  by_cases htime : result.metrics.compileTimeNs = 0
  · simp only [htime, if_true]
    exact ⟨rfl, rfl⟩
  · simp only [htime, if_false]
    exact ⟨rfl, rfl⟩

theorem alike_advancedEnding (h : a.Copies n n' a') {reply reply' : Reply (Returned CompileResult)}
    (hending : reply.ending = reply'.ending) :
    EndAlike CompileResult.SameVerdict (a.advancedEnding reply) (a'.advancedEnding reply') := by
  unfold advancedEnding
  rw [hending, h.compiler.typeName]
  rcases reply'.ending with f | (result | typeName)
  · exact .failed f
  · exact .done (sameVerdict_withTime result _ _)
  · exact .failed _

theorem alike_simpleEnding (source : Text) {reply reply' : Reply Unit}
    (hending : reply.ending = reply'.ending) :
    EndAlike CompileResult.SameVerdict (simpleEnding source reply) (simpleEnding source reply') := by
  unfold simpleEnding
  rw [hending]
  rcases reply'.ending with f | -
  · by_cases hf : (f.isHostFailure || !f.isOrdinary) = true
    · simp only [hf, if_true]
      exact .failed f
    · simp only [hf]
      exact .done ⟨rfl, rfl⟩
  · exact .done ⟨rfl, rfl⟩

/-- Copies compile a source alike. -/
theorem alike_compile (h : a.Copies n n' a') (source : Text) :
    Act.Alike n n' CompileResult.SameVerdict (a.compile source) (a'.compile source) := by
  have hadvanced := h.compiler.compileAdvanced
  have hsimple := h.compiler.compile
  unfold compile
  rw [h.mode]
  cases a'.capabilities.mode with
  | advanced =>
      revert hadvanced
      generalize a.compiler.compileAdvanced = slot
      generalize a'.compiler.compileAdvanced = slot'
      rintro (_ | _ | hbehaviour)
      · exact .throw _
      · exact .throw _
      · intro s s' hasked
        rw [runOn_compileAdvanced, runOn_compileAdvanced]
        exact ⟨alike_advancedEnding h (hbehaviour source _ _ hasked),
          askedAlike_afterReply h _ _ _ hasked⟩
  | simple =>
      revert hsimple
      generalize a.compiler.compile = slot
      generalize a'.compiler.compile = slot'
      rintro (_ | _ | hbehaviour)
      · exact .throw _
      · exact .throw _
      · intro s s' hasked
        rw [runOn_compileSimple, runOn_compileSimple]
        exact ⟨alike_simpleEnding source (hbehaviour source _ _ hasked),
          askedAlike_afterReply h _ _ _ hasked⟩

end Adapter

namespace Runner

variable {n n' : Nat} {a a' : Adapter} {r : Runner}

/-! ## The run of a source -/

theorem classify_of_sameVerdict (c : TestCase) {result result' : CompileResult}
    (h : result.SameVerdict result') : classify c result = classify c result' := by
  unfold classify
  rw [h.success, h.errors]

theorem alike_judge (h : a.Copies n n' a') (c : TestCase) (source : Text) :
    Act.Alike n n' Eq (judge c a source) (judge c a' source) := by
  refine (Adapter.alike_compile h source).attempt.bind ?_
  rintro ending ending' (f | hverdict)
  · by_cases hf : (!f.isOrdinary) = true
    · simp only [hf, if_true]
      exact .throw f
    · simp only [hf]
      cases c.shouldFail with
      | true => exact .pure rfl
      | false => exact (Act.Alike.note _ _).bind fun _ _ _ => .pure rfl
  · exact .pure (classify_of_sameVerdict c hverdict)

theorem alike_prepared (h : a.Copies n n' a') (c : TestCase) (source : Text) :
    Act.Alike n n' Eq (prepared c a source) (prepared c a' source) := by
  refine (Adapter.alike_prepare h).attempt.bind ?_
  rintro ending ending' (f | hready)
  · by_cases hf : (!f.isOrdinary) = true
    · simp only [hf, if_true]
      exact .throw f
    · simp only [hf]
      exact (Act.Alike.note _ _).bind fun _ _ _ => .pure rfl
  · exact alike_judge h c source

theorem alike_release (h : a.Copies n n' a') (label : Text) :
    Act.Alike n n' Eq (release a label) (release a' label) := by
  refine (Adapter.alike_shutdown h).attempt.bind ?_
  rintro ending ending' (f | hdone)
  · by_cases hf : f.isOrdinary = true
    · simp only [hf, if_true]
      exact .note _ _
    · simp only [hf]
      exact .throw f
  · exact .pure rfl

/-- Work that is alike stays alike with a compiler that is shut down behind it. -/
theorem alike_releasing {α : Type} (h : a.Copies n n' a') (label : Text) {work work' : Act α}
    (hwork : Act.Alike n n' Eq work work') :
    Act.Alike n n' Eq (releasing a label work) (releasing a' label work') := by
  refine hwork.attempt.bind fun ending ending' hending => ?_
  exact (alike_release h label).bind fun _ _ _ => .ofExcept hending

/-! ## The run of a case -/

/-- Copies can be adapted in the same way, or not at all. -/
theorem alike_adapt {compiler compiler' : Compiler} (h : compiler.Copies n n' compiler') :
    EndAlike (Adapter.Copies n n') (Adapter.adapt ⟨n, compiler⟩) (Adapter.adapt ⟨n', compiler'⟩) := by
  unfold Adapter.adapt Capabilities.negotiate Capabilities.modeOf?
  rw [h.compileAdvanced.isCallable_eq, h.compile.isCallable_eq, h.typeName]
  by_cases hadvanced : compiler'.compileAdvanced.isCallable = true
  · simp only [hadvanced, if_true]
    exact .done ⟨rfl, rfl, h, rfl⟩
  · by_cases hsimple : compiler'.compile.isCallable = true
    · simp only [hadvanced, hsimple, if_true]
      exact .done ⟨rfl, rfl, h, rfl⟩
    · simp only [hadvanced, hsimple]
      exact .failed _

/-- An independent factory gives compilers that are adapted in the same way, whatever has happened before. -/
theorem alike_create {factory : Factory} (h : factory.Independent) (s s' : Session) :
    EndAlike (Adapter.Copies s.trace.nextNumber s'.trace.nextNumber)
      ((Adapter.create factory).runOn s).1 ((Adapter.create factory).runOn s').1 := by
  rw [Adapter.runOn_create, Adapter.runOn_create]
  have hbuilt := h s.trace s'.trace
  revert hbuilt
  generalize factory s.trace = compiler
  generalize factory s'.trace = compiler'
  rintro (f | hcopies)
  · exact .failed f
  · exact alike_adapt hcopies

/-- A source that is run through a new compiler ends in the same way in every session. -/
theorem ending_compiled (h : r.factory.Independent) (c : TestCase) (source : Text) (s s' : Session) :
    ((r.compiled c source).runOn s).1 = ((r.compiled c source).runOn s').1 := by
  unfold compiled
  rw [Act.runOn_attempt_bind, Act.runOn_attempt_bind]
  have hcreate := alike_create h s s'
  have hleft : Session.AskedAlike s.trace.nextNumber s'.trace.nextNumber
      ((Adapter.create r.factory).runOn s).2 ((Adapter.create r.factory).runOn s').2 := by
    rw [Adapter.runOn_create, Adapter.runOn_create]
    unfold Session.AskedAlike
    rw [Session.trace_afterBuild, Session.trace_afterBuild, Trace.requests_built_self,
      Trace.requests_built_self]
  revert hcreate
  generalize ((Adapter.create r.factory).runOn s).1 = ending
  generalize ((Adapter.create r.factory).runOn s').1 = ending'
  rintro (f | hcopies)
  · by_cases hf : (f.family == .unadaptable || !f.isOrdinary) = true
    · simp only [hf, if_true]
      rfl
    · simp only [hf]
      rfl
  · obtain ⟨hending, -⟩ := alike_releasing hcopies c.name (alike_prepared hcopies c source) _ _ hleft
    revert hending
    generalize Act.runOn _ ((Adapter.create r.factory).runOn s).2 = left
    generalize Act.runOn _ ((Adapter.create r.factory).runOn s').2 = left'
    obtain ⟨ending, -⟩ := left
    obtain ⟨ending', -⟩ := left'
    rintro (f | rfl)
    · rfl
    · rfl

/-- A case ends in the same way in every session. -/
theorem ending_execute (h : r.factory.Independent) (tree : FileTree) (c : TestCase) (s s' : Session) :
    ((r.execute tree c).runOn s).1 = ((r.execute tree c).runOn s').1 := by
  have hexecution := execution_execute r tree c
  generalize r.execute tree c = action at hexecution
  cases hexecution with
  | skipped _ => rfl
  | unreadable _ _ _ => rfl
  | stopped _ _ _ => rfl
  | @compiled source _ _ => exact ending_compiled h c source s s'

end Runner

end Conformance
