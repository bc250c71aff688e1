import Conformance.Proofs.Decimal.Arithmetic
import Conformance.Run.Report

/-!
# Reports

A report counts the outcomes of the results that it takes in.  The report of a run and that of a run over a
tag are separate and count separately; they agree on the same results.

The speed of a run is computed from its time in milliseconds, which is turned into seconds again.  A time
that is not zero does not vanish on the way, so that nothing is divided by zero.

Main results:

- `RunReport.counters_ofResults`: the counters of a run are the numbers of its outcomes.
- `RunReport.failed_add_errors`: the failures of a run are as many as its counters say.
- `RunReport.success_ofResults_iff`: a run succeeds if every case of it passed or was skipped.
- `TagReport.ofResults_agrees`: a report over a tag agrees with the report of a run on the same results.
- `Decimal.seconds_ne_zero`: a positive number of milliseconds is not zero in seconds.
- `RunReport.exists_testsPerSecond_eq_ok`: every run whose time was measured has a speed.
-/

namespace Conformance

/-! ## Counters -/

/-- How many results have an outcome. -/
def countOutcome (o : Outcome) (results : List CaseResult) : Nat :=
  results.countP (·.outcome = o)

@[simp]
theorem countOutcome_nil (o : Outcome) : countOutcome o [] = 0 :=
  rfl

theorem countOutcome_cons (o : Outcome) (result : CaseResult) (rest : List CaseResult) :
    countOutcome o (result :: rest) = countOutcome o rest + if result.outcome = o then 1 else 0 := by
  unfold countOutcome
  rw [List.countP_cons]
  simp only [decide_eq_true_eq]

theorem countOutcome_eq_zero_iff {o : Outcome} {results : List CaseResult} :
    countOutcome o results = 0 ↔ ∀ result ∈ results, result.outcome ≠ o := by
  unfold countOutcome
  simp only [List.countP_eq_zero, decide_eq_true_eq, ne_eq]

theorem countOutcome_le_length (o : Outcome) (results : List CaseResult) :
    countOutcome o results ≤ results.length :=
  List.countP_le_length

/-- A result that does not count against a run: the case passed or was skipped. -/
def CaseResult.Fine (result : CaseResult) : Prop :=
  result.outcome = .pass ∨ result.outcome = .skip

theorem CaseResult.fine_iff {result : CaseResult} :
    result.Fine ↔ result.outcome ≠ .fail ∧ result.outcome ≠ .errorCompile ∧
      result.outcome ≠ .errorRuntime := by
  unfold Fine
  cases result.outcome <;> decide

/-! ## Whole runs -/

namespace RunReport

/-- How many cases of a run ended in which way. -/
structure Counters where
  passed : Nat
  failed : Nat
  skipped : Nat
  errors : Nat
  deriving Repr, DecidableEq

/-- The counters of a report. -/
def counters (r : RunReport) : Counters :=
  ⟨r.passed, r.failed, r.skipped, r.errors⟩

/-- The numbers of the outcomes. -/
def Counters.ofResults (results : List CaseResult) : Counters where
  passed := countOutcome .pass results
  failed := countOutcome .fail results
  skipped := countOutcome .skip results
  errors := countOutcome .errorCompile results + countOutcome .errorRuntime results

/-- Two sets of counters together. -/
def Counters.add (c d : Counters) : Counters :=
  ⟨c.passed + d.passed, c.failed + d.failed, c.skipped + d.skipped, c.errors + d.errors⟩

theorem counters_record (r : RunReport) (result : CaseResult) :
    (r.record result).counters = r.counters.add (.ofResults [result]) := by
  unfold record
  cases houtcome : result.outcome <;>
    simp [counters, Counters.add, Counters.ofResults, countOutcome_cons, houtcome]

theorem Counters.add_ofResults_cons (c : Counters) (result : CaseResult) (rest : List CaseResult) :
    (c.add (.ofResults [result])).add (.ofResults rest) = c.add (.ofResults (result :: rest)) := by
  simp only [add, ofResults, countOutcome_cons, countOutcome_nil, mk.injEq]
  omega

/-- The counters of a run are the numbers of its outcomes. -/
theorem counters_ofResults (results : List CaseResult) :
    (ofResults results).counters = .ofResults results := by
  have hfold (results : List CaseResult) (r : RunReport) :
      (results.foldl record r).counters = r.counters.add (.ofResults results) := by
    induction results generalizing r with
    | nil => rfl
    | cons result rest ih =>
        rw [List.foldl_cons, ih, counters_record, Counters.add_ofResults_cons]
  rw [ofResults, hfold]
  simp [counters, empty, Counters.add]

theorem cases_ofResults (results : List CaseResult) : (ofResults results).cases = results := by
  have hfold (results : List CaseResult) (r : RunReport) :
      (results.foldl record r).cases = r.cases ++ results := by
    induction results generalizing r with
    | nil => exact (List.append_nil _).symm
    | cons result rest ih =>
        rw [List.foldl_cons, ih, cases_record, List.append_assoc, List.singleton_append]
  exact hfold results empty

/-- The cases of a run are as many as were counted. -/
theorem total_ofResults (results : List CaseResult) : (ofResults results).total = results.length := by
  have hfold (results : List CaseResult) (r : RunReport) :
      (results.foldl record r).total = r.total + results.length := by
    induction results generalizing r with
    | nil => rfl
    | cons result rest ih =>
        rw [List.foldl_cons, ih, total_record, List.length_cons]
        omega
  rw [ofResults, hfold]
  exact Nat.zero_add _

/-- Counting results does not measure how long the run took. -/
theorem totalDurationMs_ofResults (results : List CaseResult) : (ofResults results).totalDurationMs = 0.0 := by
  have hrecord (r : RunReport) (result : CaseResult) :
      (r.record result).totalDurationMs = r.totalDurationMs := by
    unfold record
    cases result.outcome <;> rfl
  have hfold (results : List CaseResult) (r : RunReport) :
      (results.foldl record r).totalDurationMs = r.totalDurationMs := by
    induction results generalizing r with
    | nil => rfl
    | cons result rest ih => rw [List.foldl_cons, ih, hrecord]
  exact hfold results empty

/-- The results that count against a run failed or ended in an error. -/
theorem countP_isFailure (results : List CaseResult) :
    results.countP (·.outcome.isFailure) =
      countOutcome .fail results + (countOutcome .errorCompile results + countOutcome .errorRuntime results) := by
  induction results with
  | nil => rfl
  | cons result rest ih =>
      rw [List.countP_cons, ih, countOutcome_cons, countOutcome_cons, countOutcome_cons]
      cases houtcome : result.outcome <;> simp [Outcome.isFailure, Outcome.isError] <;> omega

/-- The failures of a run are as many as its counters say. -/
theorem failed_add_errors (results : List CaseResult) :
    (ofResults results).failed + (ofResults results).errors = (results.filter (·.outcome.isFailure)).length := by
  obtain ⟨-, hfailed, -, herrors⟩ := Counters.mk.inj (counters_ofResults results)
  rw [← List.countP_eq_length_filter, countP_isFailure, hfailed, herrors]

theorem success_iff {r : RunReport} : r.success = true ↔ r.failed + r.errors = 0 :=
  beq_iff_eq

/-- A run succeeds if every case of it passed or was skipped. -/
theorem success_ofResults_iff (results : List CaseResult) :
    (ofResults results).success = true ↔ ∀ result ∈ results, result.Fine := by
  obtain ⟨-, hfailed, -, herrors⟩ := Counters.mk.inj (counters_ofResults results)
  have hzero : (ofResults results).success = true ↔
      countOutcome .fail results = 0 ∧ countOutcome .errorCompile results = 0 ∧
        countOutcome .errorRuntime results = 0 := by
    rw [success_iff, hfailed, herrors]
    omega
  simp only [hzero, countOutcome_eq_zero_iff, CaseResult.fine_iff]
  constructor
  · rintro ⟨hfail, hcompile, hruntime⟩ result hmem
    exact ⟨hfail result hmem, hcompile result hmem, hruntime result hmem⟩
  · intro hfine
    exact ⟨fun result hmem => (hfine result hmem).1, fun result hmem => (hfine result hmem).2.1,
      fun result hmem => (hfine result hmem).2.2⟩

end RunReport

/-! ## Runs over a tag -/

namespace TagReport

/-- The report of the results of the cases with a tag. -/
def ofResults (tag : Text) (results : List CaseResult) : TagReport :=
  results.foldl record (empty tag)

/-- A report over a tag after some more results. -/
theorem foldl_record (results : List CaseResult) (r : TagReport) :
    results.foldl record r =
      { r with
        matched := r.matched + results.length
        passed := r.passed + countOutcome .pass results
        failed := r.failed + countOutcome .fail results
        cases := r.cases ++ results } := by
  induction results generalizing r with
  | nil => simp
  | cons result rest ih =>
      rw [List.foldl_cons, ih]
      simp only [record, countOutcome_cons, List.length_cons, List.append_assoc, List.singleton_append,
        mk.injEq, true_and, and_true]
      refine ⟨by omega, ?_, ?_⟩
      · by_cases h : result.outcome = .pass
        · simp only [h, if_true]
          omega
        · simp only [h, if_false]
          omega
      · by_cases h : result.outcome = .fail
        · simp only [h, if_true]
          omega
        · simp only [h, if_false]
          omega

theorem ofResults_eq (tag : Text) (results : List CaseResult) :
    ofResults tag results =
      ⟨tag, results.length, countOutcome .pass results, countOutcome .fail results, results⟩ := by
  rw [ofResults, foldl_record]
  simp [empty]

/-- A report over a tag and the report of a run say the same of the same results. -/
structure Agrees (t : TagReport) (r : RunReport) : Prop where
  cases : t.cases = r.cases
  matched_length : t.matched = t.cases.length
  matched : t.matched = r.total
  passed : t.passed = r.passed
  failed : t.failed = r.failed
  success : t.success = r.success
  /-- The counters of the cases that the report holds are those of the run. -/
  counters : (RunReport.ofResults t.cases).counters = r.counters

theorem success_ofResults_iff (tag : Text) (results : List CaseResult) :
    (ofResults tag results).success = true ↔ ∀ result ∈ results, result.Fine := by
  rw [ofResults_eq]
  simp [success, CaseResult.Fine]

/-- A report over a tag agrees with the report of a run on the same results, however long the run took. -/
theorem ofResults_agrees (tag : Text) (results : List CaseResult) (duration : Float) :
    (ofResults tag results).Agrees
      { RunReport.ofResults results with totalDurationMs := duration } where
  cases := by
    rw [ofResults_eq]
    exact (RunReport.cases_ofResults results).symm
  matched_length := by rw [ofResults_eq]
  matched := by
    rw [ofResults_eq]
    exact congrArg Int.ofNat (RunReport.total_ofResults results).symm
  passed := by
    rw [ofResults_eq]
    exact congrArg (Int.ofNat ·.passed) (RunReport.counters_ofResults results).symm
  failed := by
    rw [ofResults_eq]
    exact congrArg (Int.ofNat ·.failed) (RunReport.counters_ofResults results).symm
  success := by
    rw [Bool.eq_iff_iff, success_ofResults_iff]
    exact (RunReport.success_ofResults_iff results).symm
  counters := by
    rw [ofResults_eq]
    rfl

end TagReport

/-! ## Cases in a second -/

namespace Decimal

open Float.Model (UnpackedFloat)

variable {x : Float} {a : Bool} {m : Nat} {e : Int}

theorem parts_thousand : Parts.ofFloat 1000.0 = .finite false (1000 * 2 ^ 43) (-43) := by
  decide +kernel

/-- A number that is not too small to be counted in thousands does not vanish when it is divided by a
thousand. -/
theorem thousandth_ne_zero (hx : Parts.ofFloat x = .finite a m e) (hm : 1000 ≤ m) :
    (x / 1000.0 == 0.0) = false := by
  obtain ⟨⟨hpositive, hbelow, hsmallest, -⟩, -⟩ := held_of_parts (by omega) hx
  have hlog : m.log2 ≤ 52 := Nat.lt_succ_iff.mp ((Nat.log2_lt (by omega)).mpr hbelow)
  have hlog' : (1000 * 2 ^ 43 : Nat).log2 = 52 := by decide
  have hexponent : -1074 ≤ quotientExponent m e (1000 * 2 ^ 43) (-43) := by
    unfold quotientExponent
    omega
  have hmantissa : 0 < quotientMantissa m e (1000 * 2 ^ 43) (-43) := by
    refine Nat.div_pos ?_ (by decide)
    have hbits : 43 ≤ (e - (-43) - quotientExponent m e (1000 * 2 ^ 43) (-43)).toNat := by
      unfold quotientExponent
      omega
    exact Nat.mul_le_mul hm (Nat.pow_le_pow_right (by decide) hbits)
  have hnonzero := div_pos_of_held hmantissa hexponent
  rw [Bool.eq_false_iff]
  intro hzero
  obtain ⟨negative, hparts⟩ := parts_of_beq_zero hzero
  have hrounds := rounds_div hpositive (by decide) hx parts_thousand
  rw [hparts] at hrounds
  cases hrounds with
  | vanishes hnone => omega
  | holds held => exact absurd held.positive (by decide)

/-- A thousand times a number is not too small to be counted in thousands. -/
theorem parts_mul_thousand (hm : 0 < m) (hx : Parts.ofFloat x = .finite a m e) :
    (∃ r t, 1000 ≤ r ∧ Parts.ofFloat (x * 1000.0) = .finite a r t) ∨
      Parts.ofFloat (x * 1000.0) = .infinite a := by
  obtain ⟨⟨-, -, hsmallest, -⟩, -⟩ := held_of_parts hm hx
  have hlarge : 2 ^ 52 ≤ m * (1000 * 2 ^ 43) := by omega
  have hthousand : 1000 ≤ m * (1000 * 2 ^ 43) / 2 ^ droppedBits (m * (1000 * 2 ^ 43)) (e + -43) := by
    rcases le_div_or_targetOf_eq (e := e + -43) (.inl hlarge) with hdiv | htarget
    · omega
    · have hbits : droppedBits (m * (1000 * 2 ^ 43)) (e + -43) ≤ 43 := by
        unfold droppedBits
        omega
      rw [Nat.le_div_iff_mul_le (Nat.two_pow_pos _)]
      calc 1000 * 2 ^ droppedBits (m * (1000 * 2 ^ 43)) (e + -43) ≤ 1000 * 2 ^ 43 :=
            Nat.mul_le_mul_left _ (Nat.pow_le_pow_right (by decide) hbits)
        _ ≤ m * (1000 * 2 ^ 43) := Nat.le_mul_of_pos_left _ hm
  have hrounds := rounds_mul hm (by decide) hx parts_thousand
  rw [Bool.bne_false] at hrounds
  generalize Parts.ofFloat (x * 1000.0) = p at *
  cases hrounds with
  | vanishes hnone => omega
  | holds held hlower _ _ => exact .inl ⟨_, _, by omega, rfl⟩
  | overflows _ => exact .inr rfl

theorem unpack_thousand : ∃ n f, ∃ hn : 0 < n, (1000.0 : Float).toModel.unpack = .finite .positive n f hn := by
  obtain ⟨s, hs, hsign⟩ := exists_unpack_of_parts (by decide) parts_thousand
  cases s with
  | negative => cases hsign
  | positive => exact ⟨_, _, _, hs⟩

/-- Infinity stays infinite when it is divided by a thousand. -/
theorem thousandth_ne_zero_of_infinite (hx : Parts.ofFloat x = .infinite a) : (x / 1000.0 == 0.0) = false := by
  obtain ⟨n, f, hn, hthousand⟩ := unpack_thousand
  obtain ⟨s, hs⟩ := exists_unpack_of_infinite hx
  have hquotient : x / 1000.0 = ⟨Float.Model.pack (.infinity (s / .positive))⟩ := by
    change Float.ofModel (Float.Model.pack
      (.div .binary64 x.toModel.unpack (1000.0 : Float).toModel.unpack)) = _
    rw [hs, hthousand]
    rfl
  rw [Bool.eq_false_iff]
  intro hzero
  obtain ⟨negative, hparts⟩ := parts_of_beq_zero hzero
  rw [hquotient, Parts.ofFloat_pack_infinity] at hparts
  cases hparts

/-- A positive number of milliseconds is not zero in seconds. -/
theorem seconds_ne_zero (x : Float) (h : ¬x * 1000.0 ≤ 0.0) : (x * 1000.0 / 1000.0 == 0.0) = false := by
  obtain ⟨n, f, hn, hthousand⟩ := unpack_thousand
  have hproduct : x * 1000.0 = ⟨Float.Model.pack
      (.mul .binary64 x.toModel.unpack (.finite .positive n f hn))⟩ := by
    rw [← hthousand]
    rfl
  cases hx : x.toModel.unpack with
  | notANumber =>
      rw [hx] at hproduct
      have hnumber : x * 1000.0 = ⟨Float.Model.pack .notANumber⟩ := hproduct
      rw [hnumber]
      decide +kernel
  | infinity s =>
      refine thousandth_ne_zero_of_infinite (a := isNegative (s * .positive)) ?_
      rw [hproduct, hx]
      exact Parts.ofFloat_pack_infinity _
  | zero s =>
      have hzero : Parts.ofFloat (x * 1000.0) = .finite (isNegative (s * .positive)) 0 (-1074) := by
        rw [hproduct, hx]
        exact Parts.ofFloat_pack_zero _
      exact absurd (le_zero_of_parts hzero) h
  | finite s m e hm =>
      have hparts : Parts.ofFloat x = .finite (isNegative s) m e := by
        rw [Parts.ofFloat_eq, hx]
        rfl
      rcases parts_mul_thousand hm hparts with ⟨r, t, hr, hlarge⟩ | hlarge
      · exact thousandth_ne_zero hlarge hr
      · exact thousandth_ne_zero_of_infinite hlarge

end Decimal

namespace RunReport

open Decimal

/-- A run has a speed if its time does not vanish in seconds. -/
theorem exists_testsPerSecond_of_seconds {r : RunReport} (htotal : r.total ≤ twoTo 1000)
    (hseconds : (r.totalDurationMs / 1000.0 == 0.0) = false) : ∃ speed, r.testsPerSecond = .ok speed := by
  unfold testsPerSecond
  by_cases hduration : r.totalDurationMs ≤ 0.0
  · exact ⟨_, if_pos hduration⟩
  · obtain ⟨total, htotal⟩ := exists_double_eq_ok htotal
    refine ⟨total / (r.totalDurationMs / 1000.0), ?_⟩
    rw [if_neg hduration]
    unfold dividedBy
    rw [htotal]
    simp only [bind, Except.bind, hseconds]
    rfl

/-- A run that took no time has no speed, which is zero. -/
theorem testsPerSecond_of_le_zero {r : RunReport} (h : r.totalDurationMs ≤ 0.0) : r.testsPerSecond = .ok 0.0 :=
  if_pos h

/-- Every run whose time was measured has a speed. -/
theorem exists_testsPerSecond_eq_ok {r : RunReport} {x : Float} (htotal : r.total ≤ twoTo 1000)
    (h : r.totalDurationMs = x * 1000.0) : ∃ speed, r.testsPerSecond = .ok speed := by
  by_cases hduration : r.totalDurationMs ≤ 0.0
  · exact ⟨_, testsPerSecond_of_le_zero hduration⟩
  · refine exists_testsPerSecond_of_seconds htotal ?_
    rw [h] at hduration ⊢
    exact seconds_ne_zero x hduration

/-- A run whose time was not measured has no speed, which is zero. -/
theorem testsPerSecond_of_zero {r : RunReport} (h : r.totalDurationMs = 0.0) :
    r.testsPerSecond = .ok 0.0 := by
  refine testsPerSecond_of_le_zero ?_
  rw [h]
  decide +kernel

end RunReport

end Conformance
