import Conformance.Proofs.Run.Case

/-!
# What happens to compilers

What the operations of an adapter add to the trace, one after another.  A compiler is asked to prepare
itself, to compile if it is ready, and to shut down in any case.

Main results:

- `Adapter.trace_prepare`, `Adapter.trace_compile`, `Adapter.trace_shutdown`: what one operation adds.
- `Runner.trace_prepared_of_ready`, `Runner.trace_prepared_of_not_ready`: what the run of a source adds.
- `InTurn.order`: compilers that take turns are asked nothing before they are built, nor after the next one is.
-/

namespace Conformance

/-! ## Events -/

/-- A trace with more events, of which the first one comes first. -/
def Trace.extend (t : Trace) (events : List Event) : Trace :=
  events.reverse ++ t

namespace Trace

@[simp]
theorem extend_nil (t : Trace) : t.extend [] = t :=
  rfl

@[simp]
theorem extend_cons (t : Trace) (event : Event) (events : List Event) :
    t.extend (event :: events) = extend (event :: t) events := by
  simp [extend]

theorem extend_append (t : Trace) (first later : List Event) :
    t.extend (first ++ later) = (t.extend first).extend later := by
  simp [extend]

end Trace

/-- The events of requests to a compiler. -/
def Built.asked (b : Built) (requests : List Request) : List Event :=
  requests.map (.asked b.number b.compiler.typeName)

theorem Built.asked_append (b : Built) (first later : List Request) :
    b.asked (first ++ later) = b.asked first ++ b.asked later :=
  List.map_append

/-- Compilers take turns: they are numbered in the order in which they are built, and only the one built last
is asked. -/
def InTurn : Trace → List Event → Prop
  | _, [] => True
  | t, .built number :: rest => number = t.nextNumber ∧ InTurn (.built number :: t) rest
  | t, .asked number typeName request :: rest =>
    number + 1 = t.nextNumber ∧ InTurn (.asked number typeName request :: t) rest
  | t, .finished c result :: rest => InTurn (.finished c result :: t) rest

namespace InTurn

variable {t : Trace} {events first later before after : List Event} {number other : Nat} {typeName : Text}
  {request : Request}

theorem append_iff : InTurn t (first ++ later) ↔ InTurn t first ∧ InTurn (t.extend first) later := by
  induction first generalizing t with
  | nil => simp [InTurn]
  | cons event first ih =>
      cases event with
      | built number => simp only [List.cons_append, InTurn, ih, and_assoc, Trace.extend_cons]
      | asked number typeName request =>
          simp only [List.cons_append, InTurn, ih, and_assoc, Trace.extend_cons]
      | finished c result => simp only [List.cons_append, InTurn, ih, Trace.extend_cons]

/-- The compiler built last can be asked anything. -/
theorem asked {b : Built} (h : b.number + 1 = t.nextNumber) (requests : List Request) :
    InTurn t (b.asked requests) := by
  induction requests generalizing t with
  | nil => exact trivial
  | cons request requests ih => exact ⟨h, ih h⟩

/-- A new compiler can be asked anything. -/
theorem built_asked (t : Trace) (c : Compiler) (requests : List Request) :
    InTurn t (.built t.nextNumber :: Built.asked ⟨t.nextNumber, c⟩ requests) :=
  ⟨rfl, asked rfl requests⟩

/-- Numbers of compilers never fall. -/
theorem nextNumber_le (h : InTurn t events) : t.nextNumber ≤ (t.extend events).nextNumber := by
  induction events generalizing t with
  | nil => exact Nat.le_refl _
  | cons event events ih =>
      rw [Trace.extend_cons]
      cases event with
      | built number =>
          obtain ⟨rfl, hrest⟩ := h
          exact Nat.le_of_succ_le (ih hrest)
      | asked number typeName request => exact ih h.2
      | finished c result => exact ih h

/-- The compilers that are asked are among those that are built. -/
theorem bounds_of_asked (h : InTurn t events) (hasked : .asked other typeName request ∈ events) :
    t.nextNumber ≤ other + 1 ∧ other + 1 ≤ (t.extend events).nextNumber := by
  obtain ⟨before, after, rfl⟩ := List.append_of_mem hasked
  obtain ⟨hbefore, hother, hafter⟩ := append_iff.mp h
  have hlast := nextNumber_le hafter
  have hfirst := nextNumber_le hbefore
  rw [Trace.extend_append, Trace.extend_cons]
  change (t.extend before).nextNumber ≤ _ at hlast
  omega

/-- Whatever is asked of earlier compilers comes before the construction of one, and whatever is asked of this
one and of later ones comes behind it. -/
theorem order (h : InTurn t (before ++ .built number :: after)) :
    (.asked other typeName request ∈ before → other < number) ∧
      (.asked other typeName request ∈ after → number ≤ other) := by
  obtain ⟨hbefore, rfl, hafter⟩ := append_iff.mp h
  constructor
  · intro hasked
    exact (bounds_of_asked hbefore hasked).2
  · intro hasked
    exact Nat.le_of_succ_le_succ (bounds_of_asked hafter hasked).1

end InTurn

/-! ## Operations -/

namespace Adapter

variable {a : Adapter} {b : Built}

theorem trace_runOptional (a : Adapter) (slot : Slot (Trace → Reply Unit)) (request : Request)
    (s : Session) :
    (a.runOptional slot request s).2.trace = s.trace.extend (a.built.asked (slot.requests request)) := by
  cases slot <;> rfl

theorem trace_prepare (a : Adapter) (s : Session) :
    (a.prepare.runOn s).2.trace =
      s.trace.extend (a.built.asked (a.compiler.prepare.requests .prepare)) := by
  rw [runOn_prepare, trace_runOptional]

theorem trace_shutdown (a : Adapter) (s : Session) :
    (a.shutdown.runOn s).2.trace =
      s.trace.extend (a.built.asked (a.compiler.shutdown.requests .shutdown)) := by
  rw [runOn_shutdown, trace_runOptional]

theorem trace_describe (a : Adapter) (s : Session) :
    (a.describe.runOn s).2.trace =
      s.trace.extend (a.built.asked (a.compiler.describe.requests .describe)) := by
  unfold describe
  cases a.compiler.describe with
  | missing => rfl
  | «attribute» => rfl
  | callable behaviour =>
      rw [Act.trace_bind_of_quiet, Built.runOn_ask]
      · rfl
      · rintro (info | typeName)
        · exact Act.quiet_pure _
        · exact (Act.quiet_note _).bind fun _ => Act.quiet_pure _

theorem trace_compile (h : adapt b = .ok a) (source : Text) (s : Session) :
    ((a.compile source).runOn s).2.trace =
      s.trace.extend (a.built.asked [a.compiler.compileRequest source]) := by
  unfold Compiler.compileRequest
  rcases runOn_compile_cases h source s with
    ⟨behaviour, hadvanced, hrun⟩ | ⟨behaviour, hadvanced, -, hrun⟩
  · rw [hrun, hadvanced]
    rfl
  · rw [hrun, hadvanced]
    rfl

/-- Preparing a compiler succeeds exactly if the compiler is ready behind it. -/
theorem runOn_prepare_fst (a : Adapter) (s : Session) :
    (a.prepare.runOn s).1 = .ok () ↔ a.compiler.ReadyAfter s.trace := by
  rw [runOn_prepare]
  unfold Compiler.ReadyAfter runOptional
  cases a.compiler.prepare with
  | missing => simp
  | «attribute» => simp
  | callable behaviour => simp

end Adapter

/-! ## The run of a source -/

namespace Runner

variable {a : Adapter} {b : Built}

theorem trace_judge (c : TestCase) (a : Adapter) (source : Text) (s : Session) :
    ((judge c a source).runOn s).2.trace = ((a.compile source).runOn s).2.trace := by
  unfold judge
  refine Act.trace_attempt_bind_of_quiet ?_ s
  rintro (f | result)
  · by_cases hf : (!f.isOrdinary) = true
    · simp only [hf, if_true]
      exact Act.quiet_throw _
    · simp only [hf]
      cases c.shouldFail with
      | true => exact Act.quiet_pure _
      | false => exact (Act.quiet_note _).bind fun _ => Act.quiet_pure _
  · exact Act.quiet_pure _

/-- A compiler that is ready behind its preparation is asked to compile. -/
theorem trace_prepared_of_ready (h : Adapter.adapt b = .ok a) (c : TestCase) (source : Text) {s : Session}
    (hready : a.compiler.ReadyAfter s.trace) :
    ((prepared c a source).runOn s).2.trace =
      s.trace.extend (a.built.asked
        (a.compiler.prepare.requests .prepare ++ [a.compiler.compileRequest source])) := by
  unfold prepared
  rw [Act.runOn_attempt_bind, (a.runOn_prepare_fst s).mpr hready]
  change ((judge c a source).runOn _).2.trace = _
  rw [trace_judge, Adapter.trace_compile h, Adapter.trace_prepare, Built.asked_append,
    Trace.extend_append]

/-- A compiler that is not ready behind its preparation is not asked to compile. -/
theorem trace_prepared_of_not_ready (c : TestCase) (a : Adapter) (source : Text) {s : Session}
    (hready : ¬a.compiler.ReadyAfter s.trace) :
    ((prepared c a source).runOn s).2.trace =
      s.trace.extend (a.built.asked (a.compiler.prepare.requests .prepare)) := by
  unfold prepared
  rw [Act.runOn_attempt_bind, ← Adapter.trace_prepare]
  rcases hending : (a.prepare.runOn s).1 with f | ⟨⟩
  · by_cases hf : (!f.isOrdinary) = true
    · simp only [hf, if_true]
      exact Act.quiet_throw _ _
    · simp only [hf]
      exact (Act.quiet_note _).bind (fun _ => Act.quiet_pure _) _
  · exact absurd ((a.runOn_prepare_fst s).mp hending) hready

end Runner

end Conformance
