import Conformance.Session

/-!
# Runs of actions

How an action runs is known from how its parts run.  An action is quiet if nothing happens to compilers
while it runs, whatever it notes and however it ends.

Main results:

- `Act.runOn_bind_ok`, `Act.runOn_bind_error`: an action goes on if it has a value, and stops if it fails.
- `Act.trace_bind_of_quiet`, `Act.trace_attempt_bind_of_quiet`: quiet actions do not matter for the trace.
-/

namespace Conformance

/-! ## Runs -/

/-- A computation that may fail and that works on a state goes on behind a value, on the state that is left,
and stops behind a failure. -/
theorem run_bind {ε σ α β : Type} (x : ExceptT ε (StateM σ) α) (k : α → ExceptT ε (StateM σ) β) (s : σ) :
    (x >>= k).run.run s = match x.run.run s with
      | (.ok a, s') => (k a).run.run s'
      | (.error e, s') => (.error e, s') := by
  change ExceptT.bindCont k (x.run.run s).1 (x.run.run s).2 = _
  generalize x.run.run s = result
  obtain ⟨ending, s'⟩ := result
  cases ending <;> rfl

namespace Act

variable {α β : Type} {x : Act α} {k : α → Act β} {s s' : Session}

@[simp]
theorem runOn_pure (a : α) (s : Session) : (pure a : Act α).runOn s = (.ok a, s) :=
  rfl

@[simp]
theorem runOn_throw (f : Failure) (s : Session) : (throw f : Act α).runOn s = (.error f, s) :=
  rfl

@[simp]
theorem runOn_ofExcept (ending : Except Failure α) (s : Session) :
    (ofExcept ending).runOn s = (ending, s) :=
  rfl

@[simp]
theorem runOn_get (s : Session) : (get : Act Session).runOn s = (.ok s, s) :=
  rfl

@[simp]
theorem runOn_note (record : LogRecord) (s : Session) :
    (note record).runOn s = (.ok (), { s with log := record :: s.log }) :=
  rfl

@[simp]
theorem runOn_happen (event : Event) (s : Session) :
    (happen event).runOn s = (.ok (), { s with trace := event :: s.trace }) :=
  rfl

@[simp]
theorem runOn_seconds (s : Session) : seconds.runOn s = (s.seconds.mapError (·.failure), s) :=
  rfl

/-- An attempt hands over how an action ended, and never fails. -/
@[simp]
theorem runOn_attempt (x : Act α) (s : Session) :
    x.attempt.runOn s = (.ok (x.runOn s).1, (x.runOn s).2) :=
  rfl

/-- What comes behind an action runs on the session that the action leaves. -/
theorem runOn_bind (x : Act α) (k : α → Act β) (s : Session) :
    (x >>= k).runOn s = match x.runOn s with
      | (.ok a, s') => (k a).runOn s'
      | (.error f, s') => (.error f, s') := by
  unfold runOn
  rw [run_bind]
  rcases x.run.run s with ⟨f | a, s'⟩ <;> rfl

theorem runOn_bind_ok {a : α} (h : x.runOn s = (.ok a, s')) :
    (x >>= k).runOn s = (k a).runOn s' := by
  rw [runOn_bind, h]

theorem runOn_bind_error {f : Failure} (h : x.runOn s = (.error f, s')) :
    (x >>= k).runOn s = (.error f, s') := by
  rw [runOn_bind, h]

/-- Actions one after another have a value if each of them has. -/
theorem runOn_bind_eq_ok_iff {b : β} {s'' : Session} :
    (x >>= k).runOn s = (.ok b, s'') ↔ ∃ a s', x.runOn s = (.ok a, s') ∧ (k a).runOn s' = (.ok b, s'') := by
  rw [runOn_bind]
  rcases x.runOn s with ⟨f | a, s'⟩
  · refine ⟨fun h => (nomatch h), ?_⟩
    rintro ⟨_, _, h, -⟩
    cases h
  · constructor
    · intro h
      exact ⟨a, s', rfl, h⟩
    · rintro ⟨_, _, h, hk⟩
      cases h
      exact hk

theorem runOn_attempt_bind (x : Act α) (k : Except Failure α → Act β) (s : Session) :
    (x.attempt >>= k).runOn s = (k (x.runOn s).1).runOn (x.runOn s).2 :=
  runOn_bind_ok (runOn_attempt x s)

/-! ## Quiet actions -/

/-- Nothing happens to compilers while an action runs. -/
def Quiet (x : Act α) : Prop :=
  ∀ s, (x.runOn s).2.trace = s.trace

theorem quiet_pure (a : α) : Quiet (pure a : Act α) :=
  fun _ => rfl

theorem quiet_throw (f : Failure) : Quiet (throw f : Act α) :=
  fun _ => rfl

theorem quiet_ofExcept (ending : Except Failure α) : Quiet (ofExcept ending) :=
  fun _ => rfl

theorem quiet_note (record : LogRecord) : Quiet (note record) :=
  fun _ => rfl

theorem quiet_seconds : Quiet seconds :=
  fun _ => rfl

/-- What is quiet behind an action leaves the trace that the action leaves. -/
theorem trace_bind_of_quiet (hk : ∀ a, Quiet (k a)) (s : Session) :
    ((x >>= k).runOn s).2.trace = (x.runOn s).2.trace := by
  rw [runOn_bind]
  rcases x.runOn s with ⟨ending, s'⟩
  cases ending with
  | ok a => exact hk a s'
  | error f => rfl

theorem trace_attempt_bind_of_quiet {k : Except Failure α → Act β} (hk : ∀ ending, Quiet (k ending))
    (s : Session) : ((x.attempt >>= k).runOn s).2.trace = (x.runOn s).2.trace :=
  trace_bind_of_quiet hk s

theorem Quiet.bind (hx : Quiet x) (hk : ∀ a, Quiet (k a)) : Quiet (x >>= k) := by
  intro s
  rw [trace_bind_of_quiet hk, hx s]

end Act

end Conformance
