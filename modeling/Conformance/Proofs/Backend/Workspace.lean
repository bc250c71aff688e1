import Conformance.Backend.Command
import Conformance.Proofs.Run.Trace
import Mathlib.Data.List.Induction
import Mathlib.Data.List.Nodup

/-!
# Work directories of a tool

A compiler that drives a tool is prepared, asked to compile and shut down in any order.  Each preparation makes a work
directory, and so does a compilation while none is in use; a shutdown removes the one in use.  A directory that is in
use when another one is made is forgotten: no shutdown removes it any more.

Main results:

- `Workspace.path_injective`: the work directories of a compiler lie at different paths.
- `Command.created_of_current`, `Command.Forgets.lt_created`: the directory in use was made last, and every forgotten
  one before it.
- `Command.taken_eq_usedIn`: the tool finds in the directory in use what was taken there.
- `Command.mem_present_iff`: the directories that are there are the one in use and those that were forgotten.
- `Command.shutdown_leaves`: which directories a shutdown leaves, and where the next source is compiled.
-/

namespace Conformance.Backend

open Decimal

/-! ## Paths -/

namespace Workspace

theorem ofDigitChars_padZeros (width n : Nat) :
    Nat.ofDigitChars 10 (padZeros width (digits n)) 0 = n := by
  unfold padZeros digits
  rw [Nat.ofDigitChars_append, Nat.ofDigitChars_replicate_zero, Nat.mul_zero, Nat.ofDigitChars_ten_toDigits]

/-- Numbers are read back from their digits, whatever zeros stand in front. -/
theorem paddedNumber_injective (width : Nat) : Function.Injective (paddedNumber width) := by
  intro n m h
  have hdigits : padZeros width (digits n) = padZeros width (digits m) := String.ofList_injective h
  rw [← ofDigitChars_padZeros width n, hdigits, ofDigitChars_padZeros]

/-- The work directories of a compiler lie at different paths. -/
theorem path_injective (owner : Nat) : Function.Injective (path owner) := by
  intro n m h
  have hnames : [Text.ofString "tmp", _] = [Text.ofString "tmp", _] := congrArg Path.names h
  have hname := congrArg Text.string? (List.cons.inj (List.cons.inj hnames).2).1
  rw [Text.string?_ofString, Text.string?_ofString] at hname
  have hnumber : toString (paddedNumber 3 n) = toString (paddedNumber 3 m) := by simpa using hname
  exact paddedNumber_injective 3 hnumber

end Workspace

namespace Command

/-! ## Calls -/

/-- A call of a compiler: to prepare it, to compile a source, or to shut it down. -/
inductive Call
  | prepare
  | compile (source : Text)
  | shutdown
  deriving Repr, DecidableEq

/-- What a compiler is asked for by a call. -/
def Call.request : Call → Request
  | .prepare => .prepare
  | .compile source => .compileAdvanced source
  | .shutdown => .shutdown

/-- The work directories behind calls. -/
def directories (calls : List Call) : Workspace :=
  Workspace.empty.run (calls.map Call.request)

/-- A work directory is forgotten if it is in use when another one is made, which is when the compiler is prepared
right behind a call that is no shutdown. -/
def Forgets (calls : List Call) (n : Nat) : Prop :=
  ∃ before call after, calls = before ++ call :: .prepare :: after ∧ call ≠ .shutdown ∧
    (directories (before ++ [call])).current = some n

variable {calls : List Call} {call : Call} {source : Text} {n m : Nat}

theorem directories_concat (calls : List Call) (call : Call) :
    directories (calls ++ [call]) = (directories calls).step call.request := by
  simp [directories, Workspace.run]

/-! ## One call -/

/-- What a call does to the work directories: it makes one and uses it, removes the one in use, or changes nothing. -/
inductive Turns (w : Workspace) : Call → Workspace → Prop
  | makes : Turns w .prepare w.prepare
  | needs (source : Text) : w.current = none → Turns w (.compile source) w.prepare
  | uses (source : Text) {n : Nat} : w.current = some n → Turns w (.compile source) w
  | removes {n : Nat} : w.current = some n →
      Turns w .shutdown { w with current := none, present := w.present.filter (· != n) }
  | idles : w.current = none → Turns w .shutdown w

theorem turns_step (w : Workspace) (call : Call) : Turns w call (w.step call.request) := by
  cases call with
  | prepare => exact .makes
  | compile source =>
      change Turns w (.compile source) w.ensure
      unfold Workspace.ensure
      cases hcurrent : w.current with
      | none => exact .needs source hcurrent
      | some n => exact .uses source hcurrent
  | shutdown =>
      change Turns w .shutdown w.shutdown
      unfold Workspace.shutdown
      cases hcurrent : w.current with
      | none => exact .idles hcurrent
      | some n => exact .removes hcurrent

theorem turns_concat (calls : List Call) (call : Call) :
    Turns (directories calls) call (directories (calls ++ [call])) := by
  rw [directories_concat]
  exact turns_step (directories calls) call

/-- A directory is in use behind every call but a shutdown. -/
theorem isSome_current_concat_iff : (directories (calls ++ [call])).current.isSome = true ↔ call ≠ .shutdown := by
  have hturns := turns_concat calls call
  generalize directories (calls ++ [call]) = w at hturns ⊢
  cases hturns with
  | makes => exact ⟨fun _ => nofun, fun _ => rfl⟩
  | needs source hcurrent => exact ⟨fun _ => nofun, fun _ => rfl⟩
  | uses source hcurrent => exact ⟨fun _ => nofun, fun _ => Option.isSome_of_mem hcurrent⟩
  | removes hcurrent => exact ⟨nofun, fun hcall => absurd rfl hcall⟩
  | idles hcurrent => simp [hcurrent]

/-! ## Numbers -/

/-- The directory in use is the one that was made last. -/
theorem created_of_current (h : (directories calls).current = some n) : (directories calls).created = n + 1 := by
  induction calls using List.reverseRecOn with
  | nil => cases h
  | append_singleton calls call ih =>
      have hturns := turns_concat calls call
      generalize directories (calls ++ [call]) = w at h hturns ⊢
      cases hturns with
      | makes =>
          cases h
          rfl
      | needs source hcurrent =>
          cases h
          rfl
      | uses source hcurrent => exact ih h
      | removes hcurrent => cases h
      | idles hcurrent => exact ih h

/-- No call takes back the number of a directory. -/
theorem created_le_concat (calls : List Call) (call : Call) :
    (directories calls).created ≤ (directories (calls ++ [call])).created := by
  have hturns := turns_concat calls call
  generalize directories (calls ++ [call]) = w at hturns ⊢
  cases hturns with
  | makes => exact Nat.le_succ _
  | needs source hcurrent => exact Nat.le_succ _
  | uses source hcurrent => exact Nat.le_refl _
  | removes hcurrent => exact Nat.le_refl _
  | idles hcurrent => exact Nat.le_refl _

/-! ## Sources -/

/-- The sources of calls, each with the number of the directory in which it is taken. -/
def used (calls : List Call) : List (Nat × Text) :=
  Workspace.empty.uses (calls.map Call.request)

/-- The sources that are taken in a directory. -/
def usedIn (calls : List Call) (n : Nat) : List Text :=
  ((used calls).filter (·.1 == n)).map (·.2)

theorem uses_append (w : Workspace) (first rest : List Request) :
    w.uses (first ++ rest) = w.uses first ++ (w.run first).uses rest := by
  induction first generalizing w with
  | nil => rfl
  | cons request first ih =>
      cases request with
      | compileAdvanced source => exact congrArg (_ :: ·) (ih w.ensure)
      | _ => exact ih (w.step _)

theorem used_concat (calls : List Call) (call : Call) :
    used (calls ++ [call]) = used calls ++ (directories calls).uses [call.request] := by
  unfold used
  rw [List.map_append, uses_append]
  rfl

/-- A further source is taken in the directory that is in use behind it. -/
theorem used_concat_compile (h : (directories (calls ++ [.compile source])).current = some n) :
    used (calls ++ [.compile source]) = used calls ++ [(n, source)] := by
  rw [directories_concat] at h
  rw [used_concat]
  change _ ++ [(((directories calls).step (Call.compile source).request).current.getD 0, source)] = _
  rw [h]
  rfl

/-- No call takes a source but those that compile it. -/
theorem used_concat_of_ne (h : ∀ source, call ≠ .compile source) : used (calls ++ [call]) = used calls := by
  rw [used_concat]
  cases call with
  | prepare => exact List.append_nil _
  | compile source => exact absurd rfl (h source)
  | shutdown => exact List.append_nil _

/-- Sources are taken in directories that were made. -/
theorem lt_created_of_mem_used {use : Nat × Text} (h : use ∈ used calls) : use.1 < (directories calls).created := by
  induction calls using List.reverseRecOn with
  | nil => cases h
  | append_singleton calls call ih =>
      have hgrows := created_le_concat calls call
      cases call with
      | prepare =>
          rw [used_concat_of_ne (by simp)] at h
          exact Nat.lt_of_lt_of_le (ih h) hgrows
      | compile source =>
          have hcall : Call.compile source ≠ .shutdown := by simp
          obtain ⟨n, hcurrent⟩ := Option.isSome_iff_exists.mp (isSome_current_concat_iff.mpr hcall)
          rw [used_concat_compile hcurrent, List.mem_append, List.mem_singleton] at h
          rcases h with hbefore | rfl
          · exact Nat.lt_of_lt_of_le (ih hbefore) hgrows
          · rw [created_of_current hcurrent]
            exact Nat.lt_succ_self n
      | shutdown =>
          rw [used_concat_of_ne (by simp)] at h
          exact Nat.lt_of_lt_of_le (ih h) hgrows

/-- Nothing has been taken in the directory that is made next. -/
theorem usedIn_created (calls : List Call) : usedIn calls (directories calls).created = [] := by
  unfold usedIn
  rw [List.map_eq_nil_iff, List.filter_eq_nil_iff]
  intro use huse
  have hmade := lt_created_of_mem_used huse
  rw [beq_iff_eq]
  exact Nat.ne_of_lt hmade

theorem usedIn_concat_compile (h : (directories (calls ++ [.compile source])).current = some n) :
    usedIn (calls ++ [.compile source]) n = usedIn calls n ++ [source] := by
  unfold usedIn
  rw [used_concat_compile h]
  simp

theorem taken_concat_compile (calls : List Call) (source : Text) :
    Workspace.taken ((calls ++ [Call.compile source]).map Call.request) =
      Workspace.taken (calls.map Call.request) ++ [source] := by
  simp [Workspace.taken, Call.request]

/-- No source has been taken since a shutdown. -/
theorem taken_concat_shutdown (calls : List Call) :
    Workspace.taken ((calls ++ [Call.shutdown]).map Call.request) = [] := by
  simp [Workspace.taken, Call.request]

theorem taken_of_current_eq_none (h : (directories calls).current = none) :
    Workspace.taken (calls.map Call.request) = [] := by
  rcases List.eq_nil_or_concat' calls with rfl | ⟨before, call, rfl⟩
  · rfl
  · have hnone : ¬(directories (before ++ [call])).current.isSome = true := by simp [h]
    obtain rfl : call = .shutdown := Decidable.not_not.mp fun hcall => hnone (isSome_current_concat_iff.mpr hcall)
    exact taken_concat_shutdown before

/-- In the directory in use, the tool finds what was taken there. -/
theorem taken_eq_usedIn (h : (directories calls).current = some n) :
    Workspace.taken (calls.map Call.request) = usedIn calls n := by
  induction calls using List.reverseRecOn with
  | nil => cases h
  | append_singleton calls call ih =>
      have hturns := turns_concat calls call
      generalize hbehind : directories (calls ++ [call]) = w at h hturns
      cases hturns with
      | makes =>
          cases h
          rw [usedIn, used_concat_of_ne (by simp), ← usedIn, usedIn_created]
          simp [Workspace.taken, Call.request]
      | needs source hcurrent =>
          cases h
          rw [taken_concat_compile, taken_of_current_eq_none hcurrent, usedIn_concat_compile (by rw [hbehind]; rfl),
            usedIn_created]
      | uses source hcurrent =>
          rw [taken_concat_compile, ih h, usedIn_concat_compile (by rw [hbehind]; exact h)]
      | removes hcurrent => cases h
      | idles hcurrent => cases hcurrent.symm.trans h

/-! ## Forgotten directories -/

/-- A further call forgets the directory in use if it prepares the compiler. -/
theorem forgets_concat_iff :
    Forgets (calls ++ [call]) n ↔ Forgets calls n ∨ call = .prepare ∧ (directories calls).current = some n := by
  constructor
  · rintro ⟨before, previous, after, hcalls, hprevious, hcurrent⟩
    rcases List.eq_nil_or_concat' after with rfl | ⟨rest, last, rfl⟩
    · have hsplit : calls ++ [call] = (before ++ [previous]) ++ [.prepare] := by simp [hcalls]
      obtain ⟨rfl, hcall⟩ := List.append_inj' hsplit rfl
      exact .inr ⟨(List.cons.inj hcall).1, hcurrent⟩
    · have hsplit : calls ++ [call] = (before ++ previous :: .prepare :: rest) ++ [last] := by simp [hcalls]
      obtain ⟨rfl, -⟩ := List.append_inj' hsplit rfl
      exact .inl ⟨before, previous, rest, rfl, hprevious, hcurrent⟩
  · rintro (⟨before, previous, after, rfl, hprevious, hcurrent⟩ | ⟨rfl, hcurrent⟩)
    · exact ⟨before, previous, after ++ [call], by simp, hprevious, hcurrent⟩
    · rcases List.eq_nil_or_concat' calls with rfl | ⟨before, previous, rfl⟩
      · cases hcurrent
      · refine ⟨before, previous, [], by simp, ?_, hcurrent⟩
        exact isSome_current_concat_iff.mp (Option.isSome_of_mem hcurrent)

/-- Another directory was made behind every forgotten one. -/
theorem Forgets.lt_created (h : Forgets calls n) : n + 1 < (directories calls).created := by
  induction calls using List.reverseRecOn with
  | nil =>
      obtain ⟨before, previous, after, hcalls, -⟩ := h
      simp at hcalls
  | append_singleton calls call ih =>
      rcases forgets_concat_iff.mp h with hbefore | ⟨rfl, hcurrent⟩
      · exact Nat.lt_of_lt_of_le (ih hbefore) (created_le_concat calls call)
      · rw [directories_concat]
        change n + 1 < (directories calls).created + 1
        rw [created_of_current hcurrent]
        exact Nat.lt_succ_self _

/-- A forgotten directory is not the one in use. -/
theorem Forgets.ne_of_current (h : Forgets calls n) (hcurrent : (directories calls).current = some m) : n ≠ m := by
  have hlater := h.lt_created
  have hlast := created_of_current hcurrent
  omega

/-- The directories that are there are the one in use and those that were forgotten. -/
theorem mem_present_iff :
    n ∈ (directories calls).present ↔ (directories calls).current = some n ∨ Forgets calls n := by
  induction calls using List.reverseRecOn with
  | nil => simp [directories, Workspace.run, Workspace.empty, Forgets]
  | append_singleton calls call ih =>
      rw [forgets_concat_iff]
      have hturns := turns_concat calls call
      generalize directories (calls ++ [call]) = w at hturns ⊢
      cases hturns with
      | makes => simp [Workspace.prepare, ih, or_comm, eq_comm]
      | needs source hcurrent => simp [Workspace.prepare, ih, hcurrent, or_comm, eq_comm]
      | uses source hcurrent => simp [ih]
      | @removes m hcurrent =>
          have hin : n ∈ (directories calls).present ∧ n ≠ m ↔ Forgets calls n := by
            rw [ih, hcurrent]
            constructor
            · rintro ⟨heq | hforgets, hne⟩
              · exact absurd (Option.some.inj heq).symm hne
              · exact hforgets
            · intro hforgets
              exact ⟨.inr hforgets, hforgets.ne_of_current hcurrent⟩
          simpa using hin
      | idles hcurrent => simp [ih]

/-- Only a preparation right behind another call than a shutdown forgets a directory. -/
theorem exists_forgets_iff :
    (∃ n, Forgets calls n) ↔ ∃ before call after, calls = before ++ call :: .prepare :: after ∧ call ≠ .shutdown := by
  constructor
  · rintro ⟨n, before, call, after, hcalls, hcall, -⟩
    exact ⟨before, call, after, hcalls, hcall⟩
  · rintro ⟨before, call, after, hcalls, hcall⟩
    obtain ⟨n, hcurrent⟩ := Option.isSome_iff_exists.mp (isSome_current_concat_iff.mpr hcall)
    exact ⟨n, before, call, after, hcalls, hcall, hcurrent⟩

/-! ## Behind a shutdown -/

theorem current_concat_shutdown (calls : List Call) : (directories (calls ++ [.shutdown])).current = none := by
  rw [← Option.not_isSome_iff_eq_none, isSome_current_concat_iff]
  exact fun h => h rfl

/-- A shutdown leaves the forgotten directories and no other. -/
theorem mem_present_concat_shutdown_iff : n ∈ (directories (calls ++ [.shutdown])).present ↔ Forgets calls n := by
  rw [mem_present_iff, current_concat_shutdown, forgets_concat_iff]
  simp

/-- While no directory is in use, every one that was made is a former one. -/
theorem formers_of_current_eq_none (settings : CommandSettings) (owner : Nat)
    (h : (directories calls).current = none) :
    (formers settings owner (calls.map Call.request)).map (fun former => (former.launch.directory, former.removed)) =
      (List.range (directories calls).created).map fun n =>
        (Workspace.path owner n, !(directories calls).present.contains n) := by
  have hall : (List.range (directories calls).created).filter
      (fun n => (directories calls).current != some n) = List.range (directories calls).created := by
    rw [List.filter_eq_self, h]
    exact fun _ _ => rfl
  unfold formers
  change List.map _ (List.map _ ((List.range (directories calls).created).filter
    fun n => (directories calls).current != some n)) = _
  rw [hall, List.map_map]
  rfl

/-! ## Sessions -/

/-- The command backend under a number, adapted. -/
def adapted (settings : CommandSettings) (isOnPath : Text → Bool) (tool : List Former → Tool) (number : Nat) :
    Adapter where
  built := ⟨number, compiler settings isOnPath tool number⟩
  capabilities := ⟨.advanced, true, true, true⟩

theorem runOn_create (settings : CommandSettings) (isOnPath : Text → Bool) (tool : List Former → Tool) (s : Session) :
    (Adapter.create fun trace => .ok (compiler settings isOnPath tool trace.nextNumber)).runOn s =
      (.ok (adapted settings isOnPath tool s.trace.nextNumber), s.afterBuild) :=
  Adapter.runOn_create _ s

/-- Carry out a call. -/
def perform (a : Adapter) : Call → Act Unit
  | .prepare => a.prepare
  | .compile source => do
    let _ ← a.compile source
  | .shutdown => a.shutdown

/-- Carry out calls one after another, however they end. -/
def performAll (a : Adapter) : List Call → Act Unit
  | [] => pure ()
  | call :: rest => do
    let _ ← (perform a call).attempt
    performAll a rest

theorem trace_perform (settings : CommandSettings) (isOnPath : Text → Bool) (tool : List Former → Tool) (number : Nat)
    (call : Call) (s : Session) :
    ((perform (adapted settings isOnPath tool number) call).runOn s).2.trace =
      .asked number "CommandCompiler" call.request :: s.trace := by
  cases call with
  | prepare => exact Adapter.trace_prepare _ s
  | compile source =>
      have hadapt : Adapter.adapt (adapted settings isOnPath tool number).built =
          .ok (adapted settings isOnPath tool number) := rfl
      unfold perform
      rw [Act.trace_bind_of_quiet fun _ => Act.quiet_pure _]
      exact Adapter.trace_compile hadapt source s
  | shutdown => exact Adapter.trace_shutdown _ s

/-- A compiler has been asked for what the calls ask for, whichever way they ended. -/
theorem requests_performAll (settings : CommandSettings) (isOnPath : Text → Bool) (tool : List Former → Tool)
    (number : Nat) (calls : List Call) (s : Session) :
    ((performAll (adapted settings isOnPath tool number) calls).runOn s).2.trace.requests number =
      (calls.map Call.request).reverse ++ s.trace.requests number := by
  induction calls generalizing s with
  | nil => rfl
  | cons call rest ih =>
      unfold performAll
      rw [Act.runOn_attempt_bind, ih, trace_perform, Trace.requests_asked_self]
      simp

/-- A source is compiled in the directories that the calls before have left. -/
theorem runOn_compile_performAll (settings : CommandSettings) (isOnPath : Text → Bool) (tool : List Former → Tool)
    (number : Nat) (calls : List Call) (source : Text) {s : Session} (h : s.trace.requests number = []) :
    let a := adapted settings isOnPath tool number
    ((a.compile source).runOn ((performAll a calls).runOn s).2).1 =
      a.advancedEnding (compile settings isOnPath (tool (formers settings number (calls.map Call.request))) number
        (directories calls) (Workspace.taken (calls.map Call.request)) source) := by
  intro a
  have hrequests := requests_performAll settings isOnPath tool number calls s
  rw [h, List.append_nil] at hrequests
  have hreverse : (((performAll a calls).runOn s).2.trace.requests number).reverse = calls.map Call.request := by
    rw [hrequests, List.reverse_reverse]
  change ((a.compileAdvanced source _).runOn _).1 = _
  rw [Adapter.runOn_compileAdvanced]
  simp only [hreverse]
  rfl

/-- A shutdown always returns.  It leaves the work directories that were forgotten and no other; so it leaves none
exactly if every preparation is the first call or comes right behind a shutdown.  The next source is compiled in a work
directory that is made for it, at a path where none was before, and the tool finds what was left. -/
theorem shutdown_leaves (settings : CommandSettings) (isOnPath : Text → Bool) (tool : List Former → Tool)
    (s : Session) :
    ∃ a, (Adapter.create fun trace => .ok (compiler settings isOnPath tool trace.nextNumber)).runOn s =
        (.ok a, s.afterBuild) ∧
      ∀ calls source,
        let owner := a.built.number
        let before := ((performAll a calls).runOn s.afterBuild).2
        let behind := ((performAll a (calls ++ [.shutdown])).runOn s.afterBuild).2
        let left := directories (calls ++ [.shutdown])
        let seen := formers settings owner ((calls ++ [Call.shutdown]).map Call.request)
        (a.shutdown.runOn before).1 = .ok () ∧
        left.current = none ∧
        (∀ n, n ∈ left.present ↔ Forgets calls n) ∧
        (left.present = [] ↔ ¬∃ first call rest, calls = first ++ call :: .prepare :: rest ∧ call ≠ .shutdown) ∧
        ((a.compile source).runOn behind).1 =
          a.advancedEnding (compile settings isOnPath (tool seen) owner left [] source) ∧
        directories (calls ++ [.shutdown, .compile source]) =
          ⟨left.created + 1, some left.created, left.present ++ [left.created]⟩ ∧
        ((List.range (left.created + 1)).map (Workspace.path owner)).Nodup ∧
        seen.map (fun former => (former.launch.directory, former.removed)) =
          (List.range left.created).map fun n => (Workspace.path owner n, !left.present.contains n) := by
  refine ⟨_, runOn_create settings isOnPath tool s, fun calls source => ?_⟩
  intro owner before behind left seen
  have hcurrent : left.current = none := current_concat_shutdown calls
  have hempty : left.present = [] ↔
      ¬∃ first call rest, calls = first ++ call :: .prepare :: rest ∧ call ≠ .shutdown := by
    rw [← exists_forgets_iff, not_exists, List.eq_nil_iff_forall_not_mem]
    exact forall_congr' fun n => not_congr mem_present_concat_shutdown_iff
  have hbuilt : s.afterBuild.trace.requests owner = [] := Trace.requests_built_self _ _
  have hcompile := runOn_compile_performAll settings isOnPath tool owner (calls ++ [.shutdown]) source hbuilt
  rw [taken_concat_shutdown] at hcompile
  have hmade : directories (calls ++ [.shutdown, .compile source]) =
      ⟨left.created + 1, some left.created, left.present ++ [left.created]⟩ := by
    rw [← List.singleton_append, ← List.append_assoc, directories_concat]
    change left.ensure = _
    unfold Workspace.ensure
    rw [hcurrent]
    rfl
  exact ⟨rfl, hcurrent, fun n => mem_present_concat_shutdown_iff, hempty, hcompile, hmade,
    List.nodup_range.map (Workspace.path_injective owner), formers_of_current_eq_none settings owner hcurrent⟩

/-- A compiler that is prepared twice keeps its first work directory. -/
example : (directories [.prepare, .prepare, .shutdown]).present = [0] :=
  rfl

end Command

end Conformance.Backend
