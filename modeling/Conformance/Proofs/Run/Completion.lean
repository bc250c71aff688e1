import Conformance.Proofs.Run.Case
import Mathlib.Data.List.Forall2

/-!
# What ends a run early

The run of a case takes up nearly every failure.  What it leaves is a compiler that cannot be adapted, and what
is no failure that a case may end with.

Main results:

- `Runner.endsRun_of_runOn_runCases`: only such a failure, or a time that cannot be read, ends a run early.
- `Runner.exists_runOn_runCases`: a run in which nothing of the sort happens has a result for each case.
-/

namespace Conformance

/-- A failure that ends a whole run: it is not one that a case may end with, or a compiler cannot be
adapted. -/
def Failure.EndsRun (f : Failure) : Prop :=
  f.isOrdinary = false ∨ f.family = .unadaptable

/-! ## Failures of actions -/

/-- An action fails only in certain ways. -/
def Act.FailsOnly {α : Type} (x : Act α) (P : Failure → Prop) : Prop :=
  ∀ s f s', x.runOn s = (.error f, s') → P f

namespace Act.FailsOnly

variable {α β : Type} {x : Act α} {k : α → Act β} {P Q : Failure → Prop}

theorem pure (a : α) : (Pure.pure a : Act α).FailsOnly P := by
  intro s f s' h
  cases h

theorem throw {f : Failure} (h : P f) : (MonadExcept.throw f : Act α).FailsOnly P := by
  intro s f' s' hrun
  cases hrun
  exact h

theorem note (record : LogRecord) : (Act.note record).FailsOnly P := by
  intro s f s' h
  cases h

theorem ofExcept {ending : Except Failure α} (h : ∀ f, ending = .error f → P f) :
    (Act.ofExcept ending).FailsOnly P := by
  intro s f s' hrun
  rw [runOn_ofExcept] at hrun
  exact h f (congrArg Prod.fst hrun)

theorem bind (hx : x.FailsOnly P) (hk : ∀ a, (k a).FailsOnly P) : (x >>= k).FailsOnly P := by
  intro s f s' h
  rw [runOn_bind] at h
  rcases hrun : x.runOn s with ⟨f' | a, left⟩
  · rw [hrun] at h
    cases h
    exact hx s f _ hrun
  · rw [hrun] at h
    exact hk a left f s' h

/-- An attempt does not fail. -/
theorem attempt_bind {k : Except Failure α → Act β} (hk : ∀ ending, (k ending).FailsOnly P) :
    (x.attempt >>= k).FailsOnly P := by
  intro s f s' h
  rw [runOn_attempt_bind] at h
  exact hk _ _ _ _ h

theorem mono (hx : x.FailsOnly P) (h : ∀ f, P f → Q f) : x.FailsOnly Q :=
  fun s f s' hrun => h f (hx s f s' hrun)

end Act.FailsOnly

namespace Runner

variable {r : Runner} {tree : FileTree} {c : TestCase} {cases : List TestCase} {s s' : Session} {f : Failure}

/-! ## One case -/

/-- A failure that is taken up as ordinary is left only if it is not. -/
theorem failsOnly_unless_ordinary {α : Type} {f : Failure} {handled : Act α} {P : Failure → Prop}
    (hhandled : handled.FailsOnly P) (h : f.isOrdinary = false → P f) :
    (if !f.isOrdinary then throw f else handled).FailsOnly P := by
  cases hf : f.isOrdinary with
  | true => exact hhandled
  | false => exact .throw (h hf)

theorem failsOnly_judge (c : TestCase) (a : Adapter) (source : Text) :
    (judge c a source).FailsOnly (·.isOrdinary = false) := by
  refine .attempt_bind fun ending => ?_
  rcases ending with f | result
  · refine failsOnly_unless_ordinary ?_ id
    cases c.shouldFail with
    | true => exact .pure _
    | false => exact (Act.FailsOnly.note _).bind fun _ => .pure _
  · exact .pure _

theorem failsOnly_prepared (c : TestCase) (a : Adapter) (source : Text) :
    (prepared c a source).FailsOnly (·.isOrdinary = false) := by
  refine .attempt_bind fun ending => ?_
  rcases ending with f | ⟨⟩
  · exact failsOnly_unless_ordinary ((Act.FailsOnly.note _).bind fun _ => .pure _) id
  · exact failsOnly_judge c a source

theorem failsOnly_release (a : Adapter) (label : Text) :
    (release a label).FailsOnly (·.isOrdinary = false) := by
  refine .attempt_bind fun ending => ?_
  rcases ending with f | ⟨⟩
  · cases hf : f.isOrdinary with
    | true =>
        simp only [hf, if_true]
        exact .note _
    | false =>
        simp only [hf]
        exact .throw hf
  · exact .pure _

theorem failsOnly_releasing {α : Type} {work : Act α} (a : Adapter) (label : Text)
    (hwork : work.FailsOnly (·.isOrdinary = false)) :
    (releasing a label work).FailsOnly (·.isOrdinary = false) := by
  intro s f s' h
  unfold releasing at h
  rw [Act.runOn_attempt_bind] at h
  refine Act.FailsOnly.bind (failsOnly_release a label) (fun _ => ?_) _ f s' h
  exact .ofExcept fun f' hending => hwork s f' _ (Prod.ext hending rfl)

/-- What a compiler does ends a run only if it cannot be adapted, or if it does what no case may end with. -/
theorem failsOnly_compiled (r : Runner) (c : TestCase) (source : Text) :
    (r.compiled c source).FailsOnly Failure.EndsRun := by
  refine .attempt_bind fun ending => ?_
  rcases ending with f | a
  · by_cases hf : (f.family == .unadaptable || !f.isOrdinary) = true
    · simp only [hf, if_true]
      refine .throw ?_
      simpa [Failure.EndsRun, or_comm] using hf
    · simp only [hf]
      exact (Act.FailsOnly.note _).bind fun _ => .pure _
  · exact (failsOnly_releasing a c.name (failsOnly_prepared c a source)).mono fun _ => .inl

/-- A case whose fixture can be read ends the run only because of what its compiler does. -/
theorem failsOnly_execute {source : Text} (hread : Fixture.read tree c.filePath r.limit = .ok source) :
    (r.execute tree c).FailsOnly Failure.EndsRun := by
  have hexecution := execution_execute r tree c
  generalize r.execute tree c = action at hexecution
  cases hexecution with
  | skipped _ => exact .pure _
  | unreadable _ hfault _ => cases hread.symm.trans hfault
  | stopped _ hfault _ => cases hread.symm.trans hfault
  | @compiled source _ _ => exact failsOnly_compiled r c source

/-- The run of a case fails because of what its compiler does, or because the time cannot be read. -/
theorem endsRun_of_runOn_runCase {source : Text}
    (hread : Fixture.read tree c.filePath r.limit = .ok source)
    (h : (r.runCase tree c).runOn s = (.error f, s')) : f.EndsRun ∨ ¬s'.Readable := by
  have hrun := caseRun_runCase r tree c s
  rw [h] at hrun
  cases hrun with
  | untimed _ hs => exact .inr hs
  | failed _ hexecute => exact .inl (failsOnly_execute hread s f _ hexecute)
  | overrun _ _ _ hleft => exact .inr hleft

/-- What a case that was run has in common with its result. -/
def IsResultOf (c : TestCase) (result : CaseResult) : Prop :=
  result.name = c.name ∧ result.filePath = c.filePath.toText

theorem isResultOf_of_runOn_runCase {result : CaseResult}
    (h : (r.runCase tree c).runOn s = (.ok result, s')) : IsResultOf c result := by
  have hrun := caseRun_runCase r tree c s
  rw [h] at hrun
  cases hrun with
  | finished => exact ⟨rfl, rfl⟩

/-! ## Many cases -/

/-- Only what a compiler does, or a time that cannot be read, ends a run early. -/
theorem endsRun_of_runOn_runCases
    (hread : ∀ c ∈ cases, ∃ source, Fixture.read tree c.filePath r.limit = .ok source)
    (h : (r.runCases tree cases).runOn s = (.error f, s')) : f.EndsRun ∨ ¬s'.Readable := by
  induction cases generalizing s with
  | nil => cases h
  | cons c rest ih =>
      obtain ⟨⟨source, hsource⟩, hrest⟩ := List.forall_mem_cons.mp hread
      unfold runCases at h
      rcases hrun : (r.runCase tree c).runOn s with ⟨f' | result, left⟩
      · rw [Act.runOn_bind_error hrun] at h
        cases h
        exact endsRun_of_runOn_runCase hsource hrun
      · rw [Act.runOn_bind_ok hrun] at h
        rcases hlater : (r.runCases tree rest).runOn left with ⟨f' | results, left'⟩
        · rw [Act.runOn_bind_error hlater] at h
          cases h
          exact ih hrest hlater
        · rw [Act.runOn_bind_ok hlater] at h
          cases h

/-- A run has a result for each case, in order. -/
theorem forall₂_isResultOf {results : List CaseResult}
    (h : (r.runCases tree cases).runOn s = (.ok results, s')) : List.Forall₂ IsResultOf cases results := by
  induction cases generalizing s results with
  | nil =>
      cases h
      exact .nil
  | cons c rest ih =>
      obtain ⟨result, left, hresult, hrest⟩ := Act.runOn_bind_eq_ok_iff.mp h
      obtain ⟨later, left', hlater, hresults⟩ := Act.runOn_bind_eq_ok_iff.mp hrest
      cases hresults
      exact .cons (isResultOf_of_runOn_runCase hresult) (ih hlater)

/-- Every result is that of a case. -/
theorem exists_of_mem_results {results : List CaseResult} {result : CaseResult}
    (h : (r.runCases tree cases).runOn s = (.ok results, s')) (hresult : result ∈ results) :
    ∃ c ∈ cases, IsResultOf c result := by
  have hall := forall₂_isResultOf h
  clear h
  induction hall with
  | nil => cases hresult
  | @cons c first rest later hfirst _ ih =>
      rcases List.mem_cons.mp hresult with rfl | hlater
      · exact ⟨c, List.mem_cons_self, hfirst⟩
      · obtain ⟨other, hother, hof⟩ := ih hlater
        exact ⟨other, List.mem_cons_of_mem c hother, hof⟩

/-- A run in which every compiler can be adapted and does only what a case may end with, at a time that can be
read, has a result for each case. -/
theorem exists_runOn_runCases
    (hread : ∀ c ∈ cases, ∃ source, Fixture.read tree c.filePath r.limit = .ok source)
    (h : ∀ f s', (r.runCases tree cases).runOn s = (.error f, s') → ¬f.EndsRun ∧ s'.Readable) :
    ∃ results s', (r.runCases tree cases).runOn s = (.ok results, s') ∧
      List.Forall₂ IsResultOf cases results := by
  rcases hrun : (r.runCases tree cases).runOn s with ⟨f | results, s'⟩
  · obtain ⟨hends, hreadable⟩ := h f s' hrun
    exact absurd (endsRun_of_runOn_runCases hread hrun) (not_or.mpr ⟨hends, fun hnot => hnot hreadable⟩)
  · exact ⟨results, s', rfl, forall₂_isResultOf hrun⟩

end Runner

end Conformance
