import Conformance.CommandLine.Console
import Conformance.Proofs.Session

/-!
# Runs of steps

How a step of a command runs is known from how its parts run, as for actions on a session.

Main results:

- `Step.runOn_bind_ok`, `Step.runOn_bind_error`: a command goes on behind a value, and stops otherwise.
- `Step.StopsByFailure.bind`: steps that stop only because of failures do so together.
- `Step.runOn_watched`: work with compilers leaves its session and shows the cases that have ended.
-/

namespace Conformance.CommandLine

open Terminal (Display)

/-- A console on which more has been shown. -/
def Console.showing (c : Console) (ds : List Display) : Console :=
  { c with shown := ds.reverse ++ c.shown }

theorem Console.showing_showing (c : Console) (first later : List Display) :
    (c.showing first).showing later = c.showing (first ++ later) := by
  simp [showing]

namespace Step

variable {α β : Type} {x : Step α} {k : α → Step β} {c c' : Console}

/-- The ending of a step and the console that it leaves. -/
def runOn (x : Step α) (c : Console) : Except Stop α × Console :=
  (x.run).run c

@[simp]
theorem runOn_pure (a : α) (c : Console) : (pure a : Step α).runOn c = (.ok a, c) :=
  rfl

@[simp]
theorem runOn_throw (stop : Stop) (c : Console) : (throw stop : Step α).runOn c = (.error stop, c) :=
  rfl

@[simp]
theorem runOn_host (c : Console) : host.runOn c = (.ok c.host, c) :=
  rfl

@[simp]
theorem runOn_display (d : Display) (c : Console) :
    (display d).runOn c = (.ok (), { c with shown := d :: c.shown }) :=
  rfl

@[simp]
theorem runOn_attempt (action : Act α) (c : Console) :
    (attempt action).runOn c =
      (.ok (action.runOn c.session).1, { c with session := (action.runOn c.session).2 }) :=
  rfl

theorem runOn_ofExcept_ok (value : α) (c : Console) : (ofExcept (.ok value)).runOn c = (.ok value, c) :=
  rfl

/-- What comes behind a step runs on the console that the step leaves. -/
theorem runOn_bind (x : Step α) (k : α → Step β) (c : Console) :
    (x >>= k).runOn c = match x.runOn c with
      | (.ok a, c') => (k a).runOn c'
      | (.error stop, c') => (.error stop, c') := by
  unfold runOn
  rw [run_bind]
  rcases x.run.run c with ⟨stop | a, c'⟩ <;> rfl

theorem runOn_bind_ok {a : α} (h : x.runOn c = (.ok a, c')) : (x >>= k).runOn c = (k a).runOn c' := by
  rw [runOn_bind, h]

theorem runOn_bind_error {stop : Stop} (h : x.runOn c = (.error stop, c')) :
    (x >>= k).runOn c = (.error stop, c') := by
  rw [runOn_bind, h]

/-- Steps one after another have a value if each of them has. -/
theorem runOn_bind_eq_ok_iff {b : β} {c'' : Console} :
    (x >>= k).runOn c = (.ok b, c'') ↔ ∃ a c', x.runOn c = (.ok a, c') ∧ (k a).runOn c' = (.ok b, c'') := by
  rw [runOn_bind]
  rcases x.runOn c with ⟨stop | a, c'⟩
  · refine ⟨fun h => (nomatch h), ?_⟩
    rintro ⟨_, _, h, -⟩
    cases h
  · constructor
    · intro h
      exact ⟨a, c', rfl, h⟩
    · rintro ⟨_, _, h, hk⟩
      cases h
      exact hk

@[simp]
theorem runOn_displays (ds : List Display) (c : Console) :
    (displays ds).runOn c = (.ok (), c.showing ds) := by
  unfold displays
  induction ds generalizing c with
  | nil => rfl
  | cons d rest ih =>
      change (display d >>= fun _ => rest.forM display).runOn c = _
      rw [runOn_bind_ok (runOn_display d c), ih]
      simp [Console.showing]

/-- The console behind work with compilers while which every case that ends is shown. -/
def watchedConsole (verbose : Bool) (s : Session) (c : Console) : Console :=
  { c with session := s }.showing (finishedDisplays verbose c.session.trace.length s)

/-- Work with compilers leaves its session and shows the cases that have ended. -/
theorem runOn_watched (verbose : Bool) (action : Act α) (c : Console) :
    (watched verbose action).runOn c =
      (.ok (action.runOn c.session).1, watchedConsole verbose (action.runOn c.session).2 c) := by
  unfold watched
  rw [runOn_bind_ok (show (get : Step Console).runOn c = (.ok c, c) from rfl),
    runOn_bind_ok (runOn_attempt action c),
    runOn_bind_ok (show (get : Step Console).runOn _ = (.ok _, _) from rfl),
    runOn_bind_ok (runOn_displays _ _)]
  rfl

/-! ## Failures -/

/-- A step stops early only because of a failure. -/
def StopsByFailure (x : Step α) : Prop :=
  ∀ c stop c', x.runOn c = (.error stop, c') → ∃ f, stop = .failed f

theorem stopsByFailure_pure (a : α) : StopsByFailure (pure a : Step α) := by
  intro c stop c' h
  cases h

theorem stopsByFailure_modify (change : Console → Console) : StopsByFailure (modify change : Step Unit) := by
  intro c stop c' h
  cases h

theorem stopsByFailure_host : StopsByFailure host := by
  intro c stop c' h
  cases h

theorem stopsByFailure_ofExcept (ending : Except Failure α) : StopsByFailure (ofExcept ending) := by
  intro c stop c' h
  cases ending with
  | ok value => cases h
  | error f =>
      cases h
      exact ⟨f, rfl⟩

theorem StopsByFailure.bind (hx : StopsByFailure x) (hk : ∀ a, StopsByFailure (k a)) :
    StopsByFailure (x >>= k) := by
  intro c stop c' h
  rw [runOn_bind] at h
  rcases hrun : x.runOn c with ⟨stop' | a, left⟩
  · rw [hrun] at h
    cases h
    exact hx c stop _ hrun
  · rw [hrun] at h
    exact hk a left stop c' h

theorem stopsByFailure_print (text : Text) : StopsByFailure (print text) := by
  unfold print
  cases Text.encodingFault? text with
  | none => exact stopsByFailure_modify _
  | some fault => exact stopsByFailure_ofExcept (.error (.unencodable fault))

theorem stopsByFailure_writeReport (path : Path) (text : Text) : StopsByFailure (writeReport path text) :=
  stopsByFailure_host.bind fun _ => (stopsByFailure_modify _).bind fun _ => stopsByFailure_ofExcept _

/-! ## Printing -/

/-- A text that can be written is printed. -/
theorem runOn_print {text : Text} (h : Text.encodingFault? text = none) (c : Console) :
    (print text).runOn c = (.ok (), { c with printed := c.printed ++ text ++ "\n" }) := by
  unfold print
  rw [h]
  rfl

/-- A report that can be kept is written to its file. -/
theorem runOn_writeReport {path : Path} {text : Text} (h : (Report.write c.host.tree path text).2 = .ok ()) :
    ∃ written, (writeReport path text).runOn c =
      (.ok (), { c with
        host := { c.host with tree := (Report.write c.host.tree path text).1 }
        written := written }) := by
  unfold writeReport
  rw [runOn_bind_ok (runOn_host c)]
  dsimp only
  rw [h]
  exact ⟨_, rfl⟩

end Step

end Conformance.CommandLine
