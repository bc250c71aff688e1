import Conformance.Proofs.Compile.Adapter
import Conformance.Proofs.Fixture.Case
import Conformance.Run.Benchmark
import Mathlib.Algebra.GroupWithZero.Nat
import Mathlib.Algebra.Ring.Int.Defs

/-!
# Accounts of benchmarks

A benchmark counts each compilation once, as one that returned or as one that failed, and adds up the times of those
that returned.  Measuring one source several times and measuring several files with that source come to the same
account, for the two differ in what they count as lines only.

Main results:

- `Adapter.runOn_compile_eq`: what becomes of a source depends on what compilers were asked before, and on nothing else.
- `Benchmark.runOn_repeated`, `Benchmark.runOn_eachFile_append`: how the two loops count.
- `Benchmark.accounts_result`: what such counts say.
- `Benchmark.single_and_files_account`: all of this for the two kinds of benchmarks.
-/

namespace Conformance

/-! ## Compilations -/

/-- A compilation: its source, the time that it took, and how it ended. -/
structure Compilation where
  source : Text
  elapsed : Int
  ending : Except Failure CompileResult

namespace Compilation

/-- Whether a compilation returned, be it that the source was rejected. -/
def returned (c : Compilation) : Bool :=
  c.ending.toBool

/-- The time of a compilation that returned. -/
def time? (c : Compilation) : Option Int :=
  if c.returned then some c.elapsed else none

end Compilation

/-- Compiling ends with a value or in an ordinary failure, never in a request to stop. -/
structure Compiler.FailsOrdinarily (c : Compiler) : Prop where
  advanced : ∀ behaviour, c.compileAdvanced = .callable behaviour → ∀ trace source f,
    (behaviour trace source).ending = .error f → f.isOrdinary = true
  simple : ∀ behaviour, c.compile = .callable behaviour → ∀ trace source f,
    (behaviour trace source).ending = .error f → f.isOrdinary = true

namespace Adapter

variable {a : Adapter} {b : Built} {s s' : Session} {source : Text}

/-- What a compiler is asked when a source is compiled. -/
def request (a : Adapter) (source : Text) : Event :=
  .asked a.built.number a.compiler.typeName (a.compiler.compileRequest source)

/-- What becomes of a source, given what has happened to compilers before. -/
def compilation (a : Adapter) (trace : Trace) (source : Text) : Compilation :=
  let run := (a.compile source).runOn ⟨0, [], trace⟩
  ⟨source, run.2.clock, run.1⟩

/-- What becomes of sources that are compiled one after another. -/
def compilations (a : Adapter) : Trace → List Text → List Compilation
  | _, [] => []
  | trace, source :: rest => a.compilation trace source :: a.compilations (a.request source :: trace) rest

@[simp]
theorem length_compilations (trace : Trace) (sources : List Text) :
    (a.compilations trace sources).length = sources.length := by
  induction sources generalizing trace with
  | nil => rfl
  | cons source sources ih => rw [compilations, List.length_cons, List.length_cons, ih]

theorem source_of_mem_compilations {trace : Trace} {sources : List Text} {c : Compilation}
    (h : c ∈ a.compilations trace sources) : c.source ∈ sources := by
  induction sources generalizing trace with
  | nil => exact absurd h List.not_mem_nil
  | cons source sources ih =>
      rcases List.mem_cons.mp h with rfl | h
      · exact List.mem_cons_self
      · exact List.mem_cons_of_mem _ (ih h)

theorem trace_runOn_compile (h : adapt b = .ok a) (source : Text) (s : Session) :
    ((a.compile source).runOn s).2.trace = a.request source :: s.trace := by
  have htrace := (runOn_compile_answers h source s).1
  rw [← (adapt_eq_ok_iff.mp h).1] at htrace
  exact htrace

/-- Neither the time nor the notes that have been taken matter for a compilation. -/
theorem runOn_compile_of_trace_eq (h : adapt b = .ok a) (source : Text) (htrace : s.trace = s'.trace) :
    ((a.compile source).runOn s).1 = ((a.compile source).runOn s').1 ∧
      ((a.compile source).runOn s).2.clock - s.clock = ((a.compile source).runOn s').2.clock - s'.clock := by
  rcases runOn_compile_cases h source s with
    ⟨behaviour, hadvanced, hrun⟩ | ⟨behaviour, hadvanced, hsimple, hrun⟩
  · rcases runOn_compile_cases h source s' with
      ⟨behaviour', hadvanced', hrun'⟩ | ⟨behaviour', hadvanced', -, -⟩
    · cases hadvanced.symm.trans hadvanced'
      rw [hrun, hrun', Session.clock_afterReply_sub, Session.clock_afterReply_sub, htrace]
      exact ⟨rfl, rfl⟩
    · rw [hadvanced] at hadvanced'
      cases hadvanced'
  · rcases runOn_compile_cases h source s' with
      ⟨behaviour', hadvanced', -⟩ | ⟨behaviour', -, hsimple', hrun'⟩
    · rw [hadvanced'] at hadvanced
      cases hadvanced
    · cases hsimple.symm.trans hsimple'
      rw [hrun, hrun', Session.clock_afterReply_sub, Session.clock_afterReply_sub, htrace]
      exact ⟨rfl, rfl⟩

/-- What becomes of a source depends on what compilers were asked before, and on nothing else. -/
theorem runOn_compile_eq (h : adapt b = .ok a) (source : Text) (s : Session) :
    ((a.compile source).runOn s).1 = (a.compilation s.trace source).ending ∧
      ((a.compile source).runOn s).2.clock - s.clock = (a.compilation s.trace source).elapsed := by
  have htrace : s.trace = (⟨0, [], s.trace⟩ : Session).trace := rfl
  obtain ⟨hending, hclock⟩ := runOn_compile_of_trace_eq h source htrace
  exact ⟨hending, hclock.trans (Int.sub_zero _)⟩

/-- A compilation fails in an ordinary way if its compiler does. -/
theorem isOrdinary_of_runOn_compile (h : adapt b = .ok a) (hordinary : b.compiler.FailsOrdinarily) {f : Failure}
    (hending : ((a.compile source).runOn s).1 = .error f) : f.isOrdinary = true := by
  obtain ⟨rfl, -⟩ := adapt_eq_ok_iff.mp h
  rcases runOn_compile_cases h source s with
    ⟨behaviour, hadvanced, hrun⟩ | ⟨behaviour, -, hsimple, hrun⟩
  · rw [hrun] at hending
    unfold advancedEnding at hending
    split at hending
    · cases hending
    · cases hending
      rfl
    · next hfailed =>
        cases hending
        exact hordinary.advanced behaviour hadvanced _ _ _ hfailed
  · rw [hrun] at hending
    unfold simpleEnding at hending
    split at hending
    · cases hending
    · next hfailed =>
        split at hending
        · cases hending
          exact hordinary.simple behaviour hsimple _ _ _ hfailed
        · cases hending

end Adapter

namespace Benchmark

variable {a : Adapter} {b : Built} {tree : FileTree} {limit : Int} {lines : Text → Nat}

/-! ## Counts -/

/-- The compilations that returned. -/
def returned (runs : List Compilation) : List Compilation :=
  runs.filter (·.returned)

/-- Count compilations, with a number of lines for each source, and sources that were skipped. -/
def Tally.add (t : Tally) (lines : Text → Nat) (runs : List Compilation) (skipped : Nat) : Tally where
  successful := t.successful + (returned runs).length
  failed := t.failed + runs.countP (!·.returned) + skipped
  timeNs := t.timeNs + ((returned runs).map (·.elapsed)).sum
  lines := t.lines + ((returned runs).map fun c => lines c.source).sum

@[simp]
theorem Tally.add_nil (t : Tally) (lines : Text → Nat) : t.add lines [] 0 = t := by
  simp [add, returned]

/-- The next compilation is counted first. -/
theorem Tally.count_add (t : Tally) (lines : Text → Nat) (c : Compilation) (runs : List Compilation) (skipped : Nat) :
    (t.count c.time? (lines c.source)).add lines runs skipped = t.add lines (c :: runs) skipped := by
  by_cases hreturned : c.returned = true
  · have htime : c.time? = some c.elapsed := if_pos hreturned
    have hruns : returned (c :: runs) = c :: returned runs := List.filter_cons_of_pos hreturned
    have hfailed : (c :: runs).countP (!·.returned) = runs.countP (!·.returned) :=
      List.countP_cons_of_neg (by simp [hreturned])
    simp only [count, add, htime, hruns, hfailed, List.length_cons, List.map_cons, List.sum_cons, mk.injEq,
      true_and]
    omega
  · have htime : c.time? = none := if_neg hreturned
    have hruns : returned (c :: runs) = returned runs := List.filter_cons_of_neg hreturned
    have hfailed : (c :: runs).countP (!·.returned) = runs.countP (!·.returned) + 1 :=
      List.countP_cons_of_pos (by simp [hreturned])
    simp only [count, add, htime, hruns, hfailed, mk.injEq, true_and, and_true]
    omega

/-- A source that is skipped counts as a failure. -/
theorem Tally.skip_add (t : Tally) (lines : Text → Nat) (runs : List Compilation) (skipped : Nat) :
    (t.count none 0).add lines runs skipped = t.add lines runs (skipped + 1) := by
  simp only [count, add, mk.injEq, true_and, and_true]
  omega

/-! ## Files -/

/-- The texts of those files that can be read. -/
def readable (tree : FileTree) (limit : Int) (paths : List Path) : List Text :=
  paths.filterMap fun path => (Fixture.read tree path limit).toOption

/-- The number of files that cannot be read. -/
def skipped (tree : FileTree) (limit : Int) (paths : List Path) : Nat :=
  paths.countP fun path => !(Fixture.read tree path limit).toOption.isSome

theorem readable_cons_of_ok {path : Path} {source : Text} (hread : Fixture.read tree path limit = .ok source)
    (paths : List Path) : readable tree limit (path :: paths) = source :: readable tree limit paths :=
  List.filterMap_cons_some (by rw [hread]; rfl)

theorem skipped_cons_of_ok {path : Path} {source : Text} (hread : Fixture.read tree path limit = .ok source)
    (paths : List Path) : skipped tree limit (path :: paths) = skipped tree limit paths :=
  List.countP_cons_of_neg (by rw [hread]; exact Bool.false_ne_true)

theorem readable_cons_of_error {path : Path} {fault : Fixture.ReadFault}
    (hread : Fixture.read tree path limit = .error fault) (paths : List Path) :
    readable tree limit (path :: paths) = readable tree limit paths :=
  List.filterMap_cons_none (by rw [hread]; rfl)

theorem skipped_cons_of_error {path : Path} {fault : Fixture.ReadFault}
    (hread : Fixture.read tree path limit = .error fault) (paths : List Path) :
    skipped tree limit (path :: paths) = skipped tree limit paths + 1 :=
  List.countP_cons_of_pos (by rw [hread]; rfl)

/-- Every file can be read or is skipped. -/
theorem length_readable_add_skipped (tree : FileTree) (limit : Int) (paths : List Path) :
    (readable tree limit paths).length + skipped tree limit paths = paths.length := by
  have hboth : paths.length = paths.countP (fun path => (Fixture.read tree path limit).toOption.isSome) + _ :=
    List.length_eq_countP_add_countP _
  rw [readable, skipped, List.length_filterMap_eq_countP, hboth]
  simp only [Bool.not_eq_true, Bool.decide_eq_false]

/-- A path is looked at if nothing but the file itself is wrong where it cannot be read. -/
def Tried (tree : FileTree) (limit : Int) (path : Path) : Prop :=
  ∀ fault, Fixture.read tree path limit = .error fault → fault.isUnreadable = true

/-! ## Loops -/

/-- The requests for sources that are compiled one after another, the last one first. -/
def requests (a : Adapter) (sources : List Text) : Trace :=
  (sources.map a.request).reverse

theorem requests_cons (a : Adapter) (source : Text) (sources : List Text) (trace : Trace) :
    requests a (source :: sources) ++ trace = requests a sources ++ a.request source :: trace := by
  rw [requests, List.map_cons, List.reverse_cons, List.append_assoc, List.singleton_append, ← requests]

section Loops

variable (h : Adapter.adapt b = .ok a) (hordinary : b.compiler.FailsOrdinarily)
include h hordinary

/-- A compilation is timed if it returns. -/
theorem runOn_timed (source : Text) (s : Session) :
    ∃ s', (timed a source).runOn s = (.ok (a.compilation s.trace source).time?, s') ∧
      s'.trace = a.request source :: s.trace := by
  obtain ⟨hending, hclock⟩ := Adapter.runOn_compile_eq h source s
  refine ⟨((a.compile source).runOn s).2, ?_, Adapter.trace_runOn_compile h source s⟩
  unfold timed Compilation.time? Compilation.returned
  simp only [Act.runOn_bind, Act.runOn_get, Act.runOn_attempt]
  rw [← hending, ← hclock]
  cases hrun : ((a.compile source).runOn s).1 with
  | ok result => rfl
  | error f =>
      have hf : f.isOrdinary = true := Adapter.isOrdinary_of_runOn_compile h hordinary hrun
      change (if f.isOrdinary = true then (pure none : Act (Option Int)) else throw f).runOn _ = _
      rw [if_pos hf]
      rfl

/-- Compiling one source several times. -/
theorem runOn_repeated (source : Text) (n : Nat) (t : Tally) (s : Session) :
    ∃ s', (repeated a source n t).runOn s =
        (.ok (t.add (fun _ => 0) (a.compilations s.trace (List.replicate n source)) 0), s') ∧
      s'.trace = requests a (List.replicate n source) ++ s.trace := by
  induction n generalizing t s with
  | zero => exact ⟨s, by rw [List.replicate_zero, Adapter.compilations, Tally.add_nil]; rfl, rfl⟩
  | succ n ih =>
      obtain ⟨s₁, htimed, htrace₁⟩ := runOn_timed h hordinary source s
      obtain ⟨s₂, hrest, htrace₂⟩ := ih (t.count (a.compilation s.trace source).time? 0) s₁
      refine ⟨s₂, ?_, ?_⟩
      · have hcount := t.count_add (fun _ => 0) (a.compilation s.trace source)
          (a.compilations s₁.trace (List.replicate n source)) 0
        rw [repeated, Act.runOn_bind_ok htimed, hrest, hcount, htrace₁]
        rfl
      · rw [htrace₂, htrace₁, List.replicate_succ, requests_cons]

/-- Compiling files, up to some of them: those that can be read are compiled in order, and the others are skipped. -/
theorem runOn_eachFile_append {before : List Path} (hbefore : ∀ path ∈ before, Tried tree limit path)
    (rest : List Path) (t : Tally) (s : Session) :
    ∃ s', (eachFile a tree limit (before ++ rest) t).runOn s =
        (eachFile a tree limit rest (t.add Text.countLines (a.compilations s.trace (readable tree limit before))
          (skipped tree limit before))).runOn s' ∧
      s'.trace = requests a (readable tree limit before) ++ s.trace := by
  -- a file that is skipped leaves a note, so the session changes while what was asked of compilers does not
  induction before generalizing t s with
  | nil => exact ⟨s, by rw [readable, skipped]; simp [Adapter.compilations], rfl⟩
  | cons path before ih =>
      obtain ⟨hpath, hrest⟩ := List.forall_mem_cons.mp hbefore
      cases hread : Fixture.read tree path limit with
      | error fault =>
          let note : LogRecord := .warning ("Benchmark skipping " ++ path.toText ++ ": " ++ fault.message)
          obtain ⟨s', hrun, htrace⟩ := ih hrest (t.count none 0) { s with log := note :: s.log }
          refine ⟨s', ?_, ?_⟩
          · rw [readable_cons_of_error hread, skipped_cons_of_error hread, ← Tally.skip_add, List.cons_append, eachFile,
              hread]
            simp only [hpath fault hread, if_true]
            rw [Act.runOn_bind_ok (Act.runOn_note note s), hrun]
          · rw [htrace, readable_cons_of_error hread]
      | ok source =>
          obtain ⟨s₁, htimed, htrace₁⟩ := runOn_timed h hordinary source s
          obtain ⟨s', hrun, htrace⟩ :=
            ih hrest (t.count (a.compilation s.trace source).time? (Text.countLines source)) s₁
          refine ⟨s', ?_, ?_⟩
          · have hcount := t.count_add Text.countLines (a.compilation s.trace source)
              (a.compilations s₁.trace (readable tree limit before)) (skipped tree limit before)
            rw [htrace₁] at hcount hrun
            rw [readable_cons_of_ok hread, skipped_cons_of_ok hread, List.cons_append, eachFile, hread]
            dsimp only
            rw [Act.runOn_bind_ok htimed, hrun]
            exact congrArg (fun t' => (eachFile a tree limit rest t').runOn s') hcount
          · rw [htrace, htrace₁, readable_cons_of_ok hread, requests_cons]

end Loops

/-! ## Accounts -/

/-- The account of compilations: how many of them returned, and the sum and the average of the times of those. -/
structure Accounts (runs : List Compilation) (r : BenchmarkResult) : Prop where
  successful : r.successfulRuns = (returned runs).length
  counted : r.successfulRuns + r.failedRuns = r.totalIterations
  time : r.totalTimeNs = ((returned runs).map (·.elapsed)).sum
  average : 0 < r.successfulRuns →
    r.averageTimeNs * r.successfulRuns ≤ r.totalTimeNs ∧ r.totalTimeNs < (r.averageTimeNs + 1) * r.successfulRuns
  idle : r.successfulRuns = 0 → r.averageTimeNs = 0

/-- Counts of compilations and skipped sources are their account. -/
theorem accounts_result {runs : List Compilation} {skipped n : Nat} (hn : runs.length + skipped = n)
    (lines : Text → Nat) (shown : Nat) : Accounts runs ((Tally.zero.add lines runs skipped).result n shown) := by
  have hsuccessful : (Tally.zero.add lines runs skipped).successful = (returned runs).length := Nat.zero_add _
  have htime : (Tally.zero.add lines runs skipped).timeNs = ((returned runs).map (·.elapsed)).sum := Int.zero_add _
  refine ⟨congrArg Int.ofNat hsuccessful, ?_, htime, ?_, ?_⟩
  · have hboth : runs.length = (returned runs).length + runs.countP (!·.returned) := by
      rw [List.length_eq_countP_add_countP (·.returned), returned, List.countP_eq_length_filter]
      simp only [Bool.not_eq_true, Bool.decide_eq_false]
    simp only [Tally.result, Tally.add, Tally.zero]
    omega
  · intro hpositive
    simp only [Tally.result] at hpositive ⊢
    rw [Int.fdiv_eq_ediv_of_nonneg _ (Int.le_of_lt hpositive)]
    exact ⟨Int.ediv_mul_le _ (Int.ne_of_gt hpositive), Int.lt_ediv_add_one_mul_self _ hpositive⟩
  · intro hzero
    simp only [Tally.result] at hzero ⊢
    rw [hzero, Int.fdiv_zero]

/-- The lines of sources that are all one source. -/
theorem sum_lines_eq {runs : List Compilation} {source : Text} (h : ∀ c ∈ runs, c.source = source) :
    ((returned runs).map fun c => lines c.source).sum = (returned runs).length * lines source := by
  have hlines : (returned runs).map (fun c => lines c.source) =
      List.replicate (returned runs).length (lines source) := by
    refine List.eq_replicate_iff.mpr ⟨List.length_map _, fun line hline => ?_⟩
    obtain ⟨c, hc, rfl⟩ := List.mem_map.mp hline
    rw [h c (List.mem_filter.mp hc).1]
  rw [hlines, List.sum_replicate_nat]

/-! ## Both kinds of benchmarks -/

/-- What is counted where one source is compiled several times. -/
def singleTally (a : Adapter) (trace : Trace) (source : Text) (n : Nat) : Tally :=
  Tally.zero.add (fun _ => 0) (a.compilations trace (List.replicate n source)) 0

/-- What is counted where files are compiled. -/
def filesTally (a : Adapter) (trace : Trace) (tree : FileTree) (limit : Int) (paths : List Path) : Tally :=
  Tally.zero.add Text.countLines (a.compilations trace (readable tree limit paths)) (skipped tree limit paths)

section Runs

variable (h : Adapter.adapt b = .ok a) (hordinary : b.compiler.FailsOrdinarily)
include h hordinary

/-- Measuring one source. -/
theorem runOn_single (source : Text) (n : Nat) (s : Session) :
    ∃ s', (single a source n).runOn s = (.ok ((singleTally a s.trace source n).result n (Text.countLines source)), s') ∧
      s'.trace = requests a (List.replicate n source) ++ s.trace := by
  obtain ⟨s', hrun, htrace⟩ := runOn_repeated h hordinary source n .zero s
  refine ⟨s', ?_, htrace⟩
  rw [single, if_neg (Int.not_lt.mpr (Int.natCast_nonneg n)), Int.toNat_natCast, Act.runOn_bind_ok hrun, Act.runOn_pure]
  rfl

/-- Measuring files, each of which is looked at. -/
theorem runOn_files {paths : List Path} (hpaths : ∀ path ∈ paths, Tried tree limit path) (s : Session) :
    ∃ s', (files a tree paths limit).runOn s =
        (.ok ((filesTally a s.trace tree limit paths).result paths.length
          (filesTally a s.trace tree limit paths).lines), s') ∧
      s'.trace = requests a (readable tree limit paths) ++ s.trace := by
  obtain ⟨s', hrun, htrace⟩ := runOn_eachFile_append h hordinary hpaths [] .zero s
  refine ⟨s', ?_, htrace⟩
  rw [List.append_nil, eachFile, Act.runOn_pure] at hrun
  rw [files, Act.runOn_bind_ok hrun, Act.runOn_pure]
  rfl

/-- A path that is not looked at ends the benchmark. -/
theorem runOn_files_of_refused {before after : List Path} {path : Path} {fault : Fixture.ReadFault}
    (hbefore : ∀ path ∈ before, Tried tree limit path) (hread : Fixture.read tree path limit = .error fault)
    (hrefused : fault.isUnreadable = false) (s : Session) :
    ∃ s', (files a tree (before ++ path :: after) limit).runOn s = (.error fault.failure, s') ∧
      s'.trace = requests a (readable tree limit before) ++ s.trace := by
  obtain ⟨s', hrun, htrace⟩ := runOn_eachFile_append h hordinary hbefore (path :: after) .zero s
  refine ⟨s', ?_, htrace⟩
  -- what has been counted so far is lost
  have hends : ∀ t, (eachFile a tree limit (path :: after) t).runOn s' = (.error fault.failure, s') := by
    intro t
    rw [eachFile, hread]
    simp only [hrefused, Bool.false_eq_true, if_false]
    rfl
  rw [hends] at hrun
  rw [files, Act.runOn_bind_error hrun]

end Runs

section Copies

variable {trace : Trace} {path : Path} {source : Text}

theorem readable_replicate (hread : Fixture.read tree path limit = .ok source) (n : Nat) :
    readable tree limit (List.replicate n path) = List.replicate n source := by
  induction n with
  | zero => rfl
  | succ n ih =>
      rw [List.replicate_succ, List.replicate_succ, readable_cons_of_ok hread, ih]

theorem skipped_replicate (hread : Fixture.read tree path limit = .ok source) (n : Nat) :
    skipped tree limit (List.replicate n path) = 0 := by
  have hall := length_readable_add_skipped tree limit (List.replicate n path)
  rw [readable_replicate hread, List.length_replicate, List.length_replicate] at hall
  omega

/-- Copies of a file are counted like its text, but for the lines. -/
theorem filesTally_replicate (hread : Fixture.read tree path limit = .ok source) (n : Nat) :
    filesTally a trace tree limit (List.replicate n path) =
      { singleTally a trace source n with
        lines := (singleTally a trace source n).successful * Text.countLines source } := by
  have hsources : ∀ c ∈ a.compilations trace (List.replicate n source), c.source = source := fun c hc =>
    List.eq_of_mem_replicate (Adapter.source_of_mem_compilations hc)
  simp only [filesTally, singleTally, Tally.add, readable_replicate hread, skipped_replicate hread,
    sum_lines_eq hsources, Tally.zero, Nat.zero_add]

end Copies

/-- With a compiler that does not stop the program, a source is compiled as often as is asked for, and files that can be
read are compiled once, in order; the outcome is the account of these compilations.  A negative number is refused before
anything is compiled, and a path that cannot be looked at ends the benchmark.  Copies of a file come to the same as its
text, but for the lines. -/
theorem single_and_files_account (h : Adapter.adapt b = .ok a) (hordinary : b.compiler.FailsOrdinarily) (s : Session) :
    (∀ source (n : Nat), ∃ r s', (single a source n).runOn s = (.ok r, s') ∧
      s'.trace = requests a (List.replicate n source) ++ s.trace ∧
      r.totalIterations = n ∧ Accounts (a.compilations s.trace (List.replicate n source)) r) ∧
    (∀ source (n : Int), n < 0 → (single a source n).runOn s = (.error (negative s!"{n}"), s)) ∧
    (∀ tree limit paths, (∀ path ∈ paths, Tried tree limit path) → ∃ r s',
      (files a tree paths limit).runOn s = (.ok r, s') ∧
      s'.trace = requests a (readable tree limit paths) ++ s.trace ∧
      r.totalIterations = paths.length ∧ Accounts (a.compilations s.trace (readable tree limit paths)) r) ∧
    (∀ tree limit before path after fault, (∀ path ∈ before, Tried tree limit path) →
      Fixture.read tree path limit = .error fault → fault.isUnreadable = false →
      ∃ s', (files a tree (before ++ path :: after) limit).runOn s = (.error fault.failure, s') ∧
        s'.trace = requests a (readable tree limit before) ++ s.trace) ∧
    (∀ tree limit path source (n : Nat) (later : Session), Fixture.read tree path limit = .ok source →
      later.trace = s.trace → ∃ r s' later', (single a source n).runOn s = (.ok r, s') ∧
        (files a tree (List.replicate n path) limit).runOn later =
          (.ok { r with linesOfCode := r.successfulRuns * Text.countLines source }, later') ∧
        r.linesOfCode = Text.countLines source ∧ later'.trace = s'.trace) := by
  refine ⟨?_, ?_, ?_, ?_, ?_⟩
  · intro source n
    obtain ⟨s', hrun, htrace⟩ := runOn_single h hordinary source n s
    refine ⟨_, s', hrun, htrace, rfl, accounts_result ?_ _ _⟩
    rw [Adapter.length_compilations, List.length_replicate, Nat.add_zero]
  · intro source n hn
    rw [single, if_pos hn]
    rfl
  · intro tree limit paths hpaths
    obtain ⟨s', hrun, htrace⟩ := runOn_files h hordinary hpaths s
    refine ⟨_, s', hrun, htrace, rfl, accounts_result ?_ _ _⟩
    rw [Adapter.length_compilations, length_readable_add_skipped]
  · intro tree limit before path after fault hbefore hread hrefused
    exact runOn_files_of_refused h hordinary hbefore hread hrefused s
  · intro tree limit path source n later hread hsame
    have htried : ∀ p ∈ List.replicate n path, Tried tree limit p := by
      intro p hp fault hfault
      rw [List.eq_of_mem_replicate hp, hread] at hfault
      cases hfault
    obtain ⟨s', hsingle, htrace⟩ := runOn_single h hordinary source n s
    obtain ⟨later', hfiles, htrace'⟩ := runOn_files h hordinary htried later
    refine ⟨_, s', later', hsingle, ?_, rfl, ?_⟩
    · rw [hfiles, filesTally_replicate hread, hsame, List.length_replicate]
      simp only [Tally.result, Int.natCast_mul]
    · rw [htrace', htrace, readable_replicate hread, hsame]

/-- A compiler that crashes every other time. -/
def falteringCompiler : Compiler where
  typeName := "Faltering"
  prepare := .missing
  compileAdvanced := .missing
  compile := .callable fun trace _ =>
    if (trace.requests 0).length % 2 = 0 then ⟨.ok (), 7, []⟩ else ⟨.error (.host "crashed"), 5, []⟩
  describe := .missing
  shutdown := .missing

/-- The adapter of that compiler. -/
def falteringAdapter : Adapter :=
  ⟨⟨0, falteringCompiler⟩, ⟨.simple, false, false, false⟩⟩

/-- A tree with a file of two lines. -/
def twoLineTree : FileTree where
  top := .directory [("a.sv", .plain "x\ny".toUTF8)]
  current := []

/-- Two of three compilations are timed, and only the lines tell the copies of a file from its text. -/
theorem single_and_files_account_faltering :
    ∃ r s' s'', (single falteringAdapter "x\ny" 3).runOn (.start 0) = (.ok r, s') ∧
      r.successfulRuns = 2 ∧ r.totalTimeNs = 14 ∧ r.averageTimeNs * 2 ≤ 14 ∧ 14 < (r.averageTimeNs + 1) * 2 ∧
      (files falteringAdapter twoLineTree (List.replicate 3 ⟨.current, ["a.sv"]⟩) 1000).runOn (.start 0) =
        (.ok { r with linesOfCode := 4 }, s'') := by
  have hadapt : Adapter.adapt ⟨0, falteringCompiler⟩ = .ok falteringAdapter := rfl
  have hordinary : falteringCompiler.FailsOrdinarily := by
    refine ⟨fun _ hmissing => (nomatch hmissing), ?_⟩
    intro behaviour hbehaviour trace source f hf
    cases hbehaviour
    dsimp only at hf
    split at hf
    · cases hf
    · cases hf
      rfl
  have hread : Fixture.read twoLineTree ⟨.current, ["a.sv"]⟩ 1000 = .ok "x\ny" := by
    rw [Fixture.read_of_file rfl rfl]
    rfl
  obtain ⟨hsingle, -, -, -, hcopies⟩ := single_and_files_account hadapt hordinary (.start 0)
  obtain ⟨r, s', hrun, -, -, haccount⟩ := hsingle "x\ny" 3
  obtain ⟨r', _, s'', hrun', hfiles, -, -⟩ := hcopies twoLineTree 1000 _ "x\ny" 3 (.start 0) hread rfl
  obtain rfl : r = r' := Except.ok.inj (congrArg Prod.fst (hrun.symm.trans hrun'))
  have hsuccessful : r.successfulRuns = 2 := haccount.successful.trans (by decide +kernel)
  have htime : r.totalTimeNs = 14 := haccount.time.trans (by decide +kernel)
  have haverage := haccount.average (by rw [hsuccessful]; decide)
  rw [hsuccessful, htime] at haverage
  have hlines : r.successfulRuns * (Text.countLines "x\ny" : Int) = 4 := by
    rw [hsuccessful]
    decide
  rw [hlines] at hfiles
  exact ⟨r, s', s'', hrun, hsuccessful, htime, haverage.1, haverage.2, hfiles⟩

end Benchmark

end Conformance
