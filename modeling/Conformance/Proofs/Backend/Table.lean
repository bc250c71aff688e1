import Conformance.Backend.Table
import Conformance.Proofs.Keyed
import Conformance.Proofs.Session

/-!
# Changes to the table of backends

Classes come into a table under the name that their instances report.  A class that is registered takes the place of the
class that stood under its name, and an entry point is taken only if nothing stands there.  Whatever else is tried leaves
the table: a class without instances, something that is no class, an entry point that cannot be loaded.  So of all
classes that were registered under a name the last one stands there, and of those that entry points offered the first one,
unless one was registered.

Main results:

- `Table.runOn_apply_of_accepts`, `Table.runOn_apply_of_not_accepts`: what one change does.
- `Table.names_perform`, `Table.find?_perform`: what it does to the names, and to the class under each name.
- `Table.records_run`: what a table holds behind any changes.
- `Table.records_and_obeys`: this, what the next change does, and which names are found.
-/

namespace Conformance.Backend

/-- The name that the instances of a class report if they are made without options. -/
def BackendClass.reportedName? (backend : BackendClass) : Option Text :=
  (backend.instantiate []).toOption.map (·.name)

/-- The class that an entry point refers to. -/
def EntryTarget.backend? : EntryTarget → Option BackendClass
  | backend found => some found
  | other _ => none
  | failing _ => none

theorem EntryTarget.backend?_eq_some_iff {target : EntryTarget} {found : BackendClass} :
    target.backend? = some found ↔ target = backend found := by
  cases target with
  | backend other => simp [backend?]
  | other shown => simp [backend?]
  | failing f => simp [backend?]

namespace Table

variable {t : Table} {name : Text} {backend : BackendClass}

/-! ## Entries -/

theorem find?_eq_lookup (name : Text) (entries : List (Text × BackendClass)) :
    find? name entries = entries.lookup name := by
  induction entries with
  | nil => rfl
  | cons entry rest ih =>
      rw [Keyed.lookup_cons, find?, ih]
      by_cases h : entry.1 = name
      · rw [if_pos (beq_iff_eq.mpr h), if_pos h.symm]
      · rw [if_neg (mt beq_iff_eq.mp h), if_neg (Ne.symm h)]

theorem insert_eq_alter (name : Text) (backend : BackendClass) (entries : List (Text × BackendClass)) :
    insert name backend entries = Keyed.alter name (fun _ => backend) entries := by
  induction entries with
  | nil => rfl
  | cons entry rest ih =>
      rw [insert, Keyed.alter, ih]
      by_cases h : entry.1 = name
      · rw [if_pos (beq_iff_eq.mpr h), if_pos h]
      · rw [if_neg (mt beq_iff_eq.mp h), if_neg h]

theorem find?_insert (name other : Text) (backend : BackendClass) (entries : List (Text × BackendClass)) :
    find? other (insert name backend entries) = if other = name then some backend else find? other entries := by
  rw [insert_eq_alter, find?_eq_lookup, find?_eq_lookup, Keyed.lookup_alter]

theorem find?_eq_none_iff : find? name t.entries = none ↔ name ∉ t.names := by
  rw [find?_eq_lookup, names, Keyed.lookup_eq_none_iff]

theorem names_insert (t : Table) (name : Text) (backend : BackendClass) :
    names ⟨insert name backend t.entries⟩ = if name ∈ t.names then t.names else t.names ++ [name] := by
  rw [names, insert_eq_alter]
  exact Keyed.keys_alter name _ t.entries

/-! ## Changes -/

/-- What can be done to a table: a class is registered, or what an entry point refers to is taken. -/
inductive Change
  | register (backend : BackendClass)
  | take (point : EntryPoint)

namespace Change

/-- The class that is registered. -/
def registered? : Change → Option BackendClass
  | register backend => some backend
  | take _ => none

/-- The class that an entry point offers. -/
def offered? : Change → Option BackendClass
  | register _ => none
  | take point => point.target.backend?

/-- The name under which a class would come in. -/
def name? (c : Change) : Option Text :=
  (c.registered?.or c.offered?).bind (·.reportedName?)

/-- The class that is registered, if it reports a name. -/
def registeredAs? (name : Text) (c : Change) : Option BackendClass :=
  c.registered?.filter (·.reportedName? = some name)

/-- The class that an entry point offers, if it reports a name. -/
def offeredAs? (name : Text) (c : Change) : Option BackendClass :=
  c.offered?.filter (·.reportedName? = some name)

/-- Try a change. -/
def apply (t : Table) : Change → Act Table
  | register backend => (·.2) <$> t.register backend
  | take point => t.take point

theorem registeredAs?_eq_some_iff {c : Change} {name : Text} {backend : BackendClass} :
    c.registeredAs? name = some backend ↔ c = register backend ∧ backend.reportedName? = some name := by
  cases c with
  | register other => simp [registeredAs?, registered?, Option.filter_eq_some_iff]
  | take e => simp [registeredAs?, registered?]

theorem offeredAs?_eq_some_iff {c : Change} {name : Text} {backend : BackendClass} :
    c.offeredAs? name = some backend ↔
      (∃ e, c = take e ∧ e.target = .backend backend) ∧ backend.reportedName? = some name := by
  cases c with
  | register other => simp [offeredAs?, offered?]
  | take e => simp [offeredAs?, offered?, Option.filter_eq_some_iff, EntryTarget.backend?_eq_some_iff]

theorem name?_eq_some_iff {c : Change} {name : Text} :
    c.name? = some name ↔ ∃ backend, c.registeredAs? name = some backend ∨ c.offeredAs? name = some backend := by
  cases c with
  | register other => simp [name?, registeredAs?, offeredAs?, registered?, offered?, Option.filter_eq_some_iff]
  | take e =>
      simp [name?, registeredAs?, offeredAs?, registered?, offered?, Option.filter_eq_some_iff, Option.bind_eq_some_iff]

theorem registeredAs?_eq_none {c : Change} {name : Text} (h : c.name? ≠ some name) : c.registeredAs? name = none :=
  Option.eq_none_iff_forall_ne_some.mpr fun backend hfound => h (name?_eq_some_iff.mpr ⟨backend, .inl hfound⟩)

theorem offeredAs?_eq_none {c : Change} {name : Text} (h : c.name? ≠ some name) : c.offeredAs? name = none :=
  Option.eq_none_iff_forall_ne_some.mpr fun backend hfound => h (name?_eq_some_iff.mpr ⟨backend, .inr hfound⟩)

end Change

variable {c : Change} {changes : List Change}

/-- A change brings a class in under a name. -/
inductive Accepts (t : Table) : Change → Text → BackendClass → Prop
  | register {backend : BackendClass} {name : Text} :
      backend.reportedName? = some name → Accepts t (.register backend) name backend
  | take {e : EntryPoint} {backend : BackendClass} {name : Text} :
      e.target = .backend backend → backend.reportedName? = some name → name ∉ t.names →
        Accepts t (.take e) name backend

namespace Accepts

theorem reportedName?_eq (h : t.Accepts c name backend) : backend.reportedName? = some name := by
  cases h with
  | register hname => exact hname
  | take _ hname _ => exact hname

theorem name?_eq (h : t.Accepts c name backend) : c.name? = some name := by
  rw [Change.name?_eq_some_iff]
  cases h with
  | register hname => exact ⟨backend, .inl (Change.registeredAs?_eq_some_iff.mpr ⟨rfl, hname⟩)⟩
  | take htarget hname _ => exact ⟨backend, .inr (Change.offeredAs?_eq_some_iff.mpr ⟨⟨_, rfl, htarget⟩, hname⟩)⟩

end Accepts

/-! ## One change -/

/-- A change ends without a value, or it only leaves a note. -/
inductive LeavesBe (t : Table) (s : Session) : Except Failure Table × Session → Prop
  | noted (record : LogRecord) : LeavesBe t s (.ok t, { s with log := record :: s.log })
  | stopped (f : Failure) : LeavesBe t s (.error f, s)

theorem runOn_nameOf?_of_reported (h : backend.reportedName? = some name) (s : Session) :
    (nameOf? backend).runOn s = (.ok (some name), s) := by
  unfold BackendClass.reportedName? at h
  unfold nameOf?
  cases hmade : backend.instantiate [] with
  | error f =>
      rw [hmade] at h
      cases h
  | ok made =>
      rw [hmade] at h
      cases h
      rfl

/-- A class that reports no name is noted, or asking for its name fails. -/
theorem runOn_nameOf?_of_not (h : backend.reportedName? = none) (s : Session) :
    (∃ record, (nameOf? backend).runOn s = (.ok none, { s with log := record :: s.log })) ∨
      ∃ f, (nameOf? backend).runOn s = (.error f, s) := by
  unfold BackendClass.reportedName? at h
  unfold nameOf?
  cases hmade : backend.instantiate [] with
  | ok made =>
      rw [hmade] at h
      cases h
  | error f =>
      cases hordinary : f.isOrdinary with
      | true => exact .inl ⟨_, by simp only [hordinary, if_true]; rfl⟩
      | false => exact .inr ⟨f, by simp only [hordinary]; rfl⟩

theorem runOn_register (h : backend.reportedName? = some name) (t : Table) (s : Session) :
    (t.register backend).runOn s = (.ok (some name, ⟨insert name backend t.entries⟩), s) :=
  Act.runOn_bind_ok (runOn_nameOf?_of_reported h s)

/-- A change that brings a class in puts it under its name. -/
theorem runOn_apply_of_accepts (h : t.Accepts c name backend) (s : Session) :
    (c.apply t).runOn s = (.ok ⟨insert name backend t.entries⟩, s) := by
  cases h with
  | register hname => exact Act.runOn_bind_ok (runOn_register hname t s)
  | @take e _ _ htarget hname hnew =>
      have hfree : (find? name t.entries).isSome = false := by
        rw [find?_eq_none_iff.mpr hnew, Option.isSome_none]
      change (t.take e).runOn s = _
      unfold take
      rw [htarget]
      refine (Act.runOn_bind_ok (runOn_nameOf?_of_reported hname s)).trans ?_
      simp only [hfree]
      rfl

/-- A class that reports no name is not registered. -/
theorem leavesBe_register (h : backend.reportedName? = none) (t : Table) (s : Session) :
    LeavesBe t s (((Change.register backend).apply t).runOn s) := by
  change LeavesBe t s (((·.2) <$> t.register backend).runOn s)
  obtain ⟨record, hnoted⟩ | ⟨f, hstopped⟩ := runOn_nameOf?_of_not h s
  · have hnone : (t.register backend).runOn s = (.ok (none, t), { s with log := record :: s.log }) :=
      Act.runOn_bind_ok hnoted
    rw [map_eq_pure_bind, Act.runOn_bind_ok hnone]
    exact .noted record
  · have hfails : (t.register backend).runOn s = (.error f, s) := Act.runOn_bind_error hstopped
    rw [map_eq_pure_bind, Act.runOn_bind_error hfails]
    exact .stopped f

/-- An entry point is not taken if it cannot be loaded, if it refers to no class or to one that reports no name, and if
the name is in use. -/
theorem leavesBe_take {e : EntryPoint} (h : ∀ name backend, ¬t.Accepts (.take e) name backend) (s : Session) :
    LeavesBe t s ((t.take e).runOn s) := by
  unfold take
  cases htarget : e.target with
  | failing f =>
      cases hordinary : f.isOrdinary with
      | true =>
          simp only [hordinary, if_true]
          exact .noted _
      | false =>
          simp only [hordinary]
          exact .stopped f
  | other shown => exact .noted _
  | backend backend =>
      dsimp only
      cases hname : backend.reportedName? with
      | none =>
          obtain ⟨record, hnoted⟩ | ⟨f, hstopped⟩ := runOn_nameOf?_of_not hname s
          · rw [Act.runOn_bind_ok hnoted]
            exact .noted record
          · rw [Act.runOn_bind_error hstopped]
            exact .stopped f
      | some name =>
          have hused : (find? name t.entries).isSome = true := by
            rw [Option.isSome_iff_ne_none, ne_eq, find?_eq_none_iff]
            exact fun hnew => h name backend (.take htarget hname hnew)
          rw [Act.runOn_bind_ok (runOn_nameOf?_of_reported hname s)]
          simp only [hused, if_true]
          exact .noted _

/-- Every change that brings no class in leaves the table. -/
theorem runOn_apply_of_not_accepts (h : ∀ name backend, ¬t.Accepts c name backend) (s : Session) :
    LeavesBe t s ((c.apply t).runOn s) := by
  cases c with
  | register backend =>
      have hnone : backend.reportedName? = none :=
        Option.eq_none_iff_forall_ne_some.mpr fun name hname => h name backend (.register hname)
      exact leavesBe_register hnone t s
  | take e => exact leavesBe_take h s

/-- A change that brings nothing in would have come in under no name, or under one that is in use. -/
theorem mem_names_of_not_accepts (h : ∀ name backend, ¬t.Accepts c name backend) (hname : c.name? = some name) :
    name ∈ t.names := by
  by_contra hnew
  obtain ⟨backend, hregistered | hoffered⟩ := Change.name?_eq_some_iff.mp hname
  · obtain ⟨rfl, hreports⟩ := Change.registeredAs?_eq_some_iff.mp hregistered
    exact h name backend (.register hreports)
  · obtain ⟨⟨e, rfl, htarget⟩, hreports⟩ := Change.offeredAs?_eq_some_iff.mp hoffered
    exact h name backend (.take htarget hreports hnew)

/-- The table and the session that a change leaves.  If the change fails, the table is what it was. -/
def perform (state : Table × Session) (c : Change) : Table × Session :=
  let ran := (c.apply state.1).runOn state.2
  (ran.1.toOption.getD state.1, ran.2)

theorem perform_of_accepts (h : t.Accepts c name backend) (s : Session) :
    perform (t, s) c = (⟨insert name backend t.entries⟩, s) := by
  unfold perform
  rw [runOn_apply_of_accepts h]
  rfl

theorem perform_of_not_accepts (h : ∀ name backend, ¬t.Accepts c name backend) (s : Session) :
    (perform (t, s) c).1 = t := by
  have hleft := runOn_apply_of_not_accepts h s
  unfold perform
  generalize (c.apply t).runOn s = ran at hleft ⊢
  cases hleft with
  | noted record => rfl
  | stopped f => rfl

/-- A change brings a class in, or it leaves the table. -/
theorem perform_cases (t : Table) (s : Session) (c : Change) :
    (∃ name backend, t.Accepts c name backend ∧ perform (t, s) c = (⟨insert name backend t.entries⟩, s)) ∨
      (∀ name backend, ¬t.Accepts c name backend) ∧ (perform (t, s) c).1 = t := by
  by_cases h : ∃ name backend, t.Accepts c name backend
  · obtain ⟨name, backend, hin⟩ := h
    exact .inl ⟨name, backend, hin, perform_of_accepts hin s⟩
  · simp only [not_exists] at h
    exact .inr ⟨h, perform_of_not_accepts h s⟩

/-- Every name keeps its place, and a new one comes in behind the others. -/
theorem names_perform (t : Table) (s : Session) (c : Change) :
    (perform (t, s) c).1.names =
      c.name?.elim t.names fun name => if name ∈ t.names then t.names else t.names ++ [name] := by
  obtain ⟨name, backend, hin, hafter⟩ | ⟨hnot, hafter⟩ := perform_cases t s c
  · rw [hafter, names_insert, hin.name?_eq, Option.elim_some]
  · rw [hafter]
    cases hname : c.name? with
    | none => rfl
    | some name => rw [Option.elim_some, if_pos (mem_names_of_not_accepts hnot hname)]

/-- Under a name stands the class that a change registers there, or else the class that stood there, or else the class
that it offers. -/
theorem find?_perform (t : Table) (s : Session) (c : Change) (name : Text) :
    find? name (perform (t, s) c).1.entries =
      (c.registeredAs? name).or ((find? name t.entries).or (c.offeredAs? name)) := by
  obtain ⟨new, backend, hin, hafter⟩ | ⟨hnot, hafter⟩ := perform_cases t s c
  · rw [hafter, find?_insert]
    by_cases hsame : name = new
    · subst hsame
      rw [if_pos rfl]
      cases hin with
      | register hname =>
          rw [Change.registeredAs?_eq_some_iff.mpr ⟨rfl, hname⟩]
          rfl
      | take htarget hname hnew =>
          rw [find?_eq_none_iff.mpr hnew, Change.offeredAs?_eq_some_iff.mpr ⟨⟨_, rfl, htarget⟩, hname⟩]
          rfl
    · have hother : c.name? ≠ some name := fun hname => hsame (Option.some.inj (hname.symm.trans hin.name?_eq))
      rw [if_neg hsame, Change.registeredAs?_eq_none hother, Change.offeredAs?_eq_none hother, Option.none_or,
        Option.or_none]
  · rw [hafter]
    have hregistered : c.registeredAs? name = none := by
      refine Option.eq_none_iff_forall_ne_some.mpr fun backend hfound => ?_
      obtain ⟨rfl, hname⟩ := Change.registeredAs?_eq_some_iff.mp hfound
      exact hnot name backend (.register hname)
    rw [hregistered, Option.none_or]
    cases hoffered : c.offeredAs? name with
    | none => rw [Option.or_none]
    | some backend =>
        have hused : find? name t.entries ≠ none := by
          rw [ne_eq, find?_eq_none_iff, not_not]
          exact mem_names_of_not_accepts hnot (Change.name?_eq_some_iff.mpr ⟨backend, .inr hoffered⟩)
        exact (Option.or_eq_left_of_isSome (Option.isSome_iff_ne_none.mpr hused)).symm

/-! ## Changes one after another -/

/-- The table and the session behind changes to an empty table. -/
def run (s : Session) (changes : List Change) : Table × Session :=
  changes.foldl perform (⟨[]⟩, s)

theorem run_concat (s : Session) (changes : List Change) (c : Change) :
    run s (changes ++ [c]) = perform (run s changes) c :=
  List.foldl_append

/-- What a table holds behind changes. -/
structure Records (t : Table) (changes : List Change) : Prop where
  reported : ∀ entry ∈ t.entries, entry.2.reportedName? = some entry.1
  nodup : t.names.Nodup
  names_eq : t.names = (changes.filterMap (·.name?)).eraseDups
  find?_eq : ∀ name, find? name t.entries =
    (changes.reverse.findSome? (·.registeredAs? name)).or (changes.findSome? (·.offeredAs? name))

namespace Records

theorem nil : Records ⟨[]⟩ [] where
  reported _ h := nomatch h
  nodup := List.nodup_nil
  names_eq := rfl
  find?_eq _ := rfl

/-- A table records one more change. -/
theorem concat (h : t.Records changes) (s : Session) (c : Change) :
    (perform (t, s) c).1.Records (changes ++ [c]) := by
  have hnames : (perform (t, s) c).1.names = ((changes ++ [c]).filterMap (·.name?)).eraseDups := by
    rw [names_perform, List.filterMap_append]
    cases hname : c.name? with
    | none => simp [hname, h.names_eq]
    | some name =>
      simp only [List.filterMap_cons, hname, List.filterMap_nil, Keyed.eraseDups_concat, Option.elim_some,
        h.names_eq, List.mem_eraseDups]
  refine ⟨?_, hnames ▸ Keyed.nodup_eraseDups _, hnames, fun name => ?_⟩
  · intro entry hentry
    obtain ⟨name, backend, hin, hafter⟩ | ⟨-, hafter⟩ := perform_cases t s c
    · rw [hafter, insert_eq_alter] at hentry
      obtain ⟨hname, hclass⟩ | ⟨-, hthere⟩ := (Keyed.mem_alter_iff h.nodup).mp hentry
      · rw [hname, hclass]
        exact hin.reportedName?_eq
      · exact h.reported entry hthere
    · exact h.reported entry (hafter ▸ hentry)
  · rw [find?_perform, h.find?_eq, List.reverse_append, List.reverse_singleton, List.singleton_append,
      List.findSome?_cons, List.findSome?_append, List.findSome?_singleton]
    cases c.registeredAs? name with
    | none => rw [Option.none_or, Option.or_assoc]
    | some backend => rfl

end Records

theorem records_run (s : Session) (changes : List Change) : (run s changes).1.Records changes := by
  induction changes using List.reverseRecOn with
  | nil => exact .nil
  | append_singleton changes c ih =>
      rw [run_concat]
      exact ih.concat _ c

/-! ## Looking up -/

/-- What is found in a table under a name. -/
structure LooksUp (t : Table) (name : Text) : Prop where
  known : name ∈ t.names → ∃ backend, (name, backend) ∈ t.entries ∧ t.classOf name = .ok backend ∧
    ∀ options, ∃ made, t.factory name options = .ok made
  unknown : name ∉ t.names → ∃ message, t.classOf name = .error (.unknownBackend message) ∧
    ∀ options, t.factory name options = .error (.unknownBackend message)

theorem mem_entries_of_find? (h : find? name t.entries = some backend) : (name, backend) ∈ t.entries := by
  rw [find?_eq_lookup, List.lookup_eq_some_iff] at h
  obtain ⟨before, behind, hentries, -⟩ := h
  exact hentries ▸ List.mem_append_right _ List.mem_cons_self

theorem looksUp (t : Table) (name : Text) : t.LooksUp name := by
  constructor
  · intro hmem
    cases hfind : find? name t.entries with
    | none => exact absurd hmem (find?_eq_none_iff.mp hfind)
    | some backend =>
        have hclass : t.classOf name = .ok backend := by
          unfold classOf
          rw [hfind]
        refine ⟨backend, mem_entries_of_find? hfind, hclass, fun options => ?_⟩
        unfold factory
        rw [hclass]
        exact ⟨_, rfl⟩
  · intro hnew
    have hclass : ∃ message, t.classOf name = .error (.unknownBackend message) := by
      unfold classOf
      rw [find?_eq_none_iff.mpr hnew]
      exact ⟨_, rfl⟩
    obtain ⟨message, hclass⟩ := hclass
    refine ⟨message, hclass, fun options => ?_⟩
    unfold factory
    rw [hclass]
    rfl

/-! ## The next change -/

/-- What one change makes of a table. -/
structure Obeys (before : Table) (c : Change) (after : Table) : Prop where
  /-- A class that is registered takes the place of the one that has its name. -/
  overridden {backend : BackendClass} {name : Text} : c = .register backend → backend.reportedName? = some name →
    name ∈ before.names →
    after.entries = before.entries.map fun entry => if entry.1 = name then (name, backend) else entry
  added {backend : BackendClass} {name : Text} : before.Accepts c name backend → name ∉ before.names →
    after.entries = before.entries ++ [(name, backend)]
  /-- An entry point never does so. -/
  kept {e : EntryPoint} : c = .take e → before.entries <+: after.entries
  unchanged : (∀ name backend, ¬before.Accepts c name backend) → after = before

theorem Records.obeys (h : t.Records changes) (s : Session) (c : Change) : t.Obeys c (perform (t, s) c).1 := by
  have hadded {backend : BackendClass} {name : Text} (hin : t.Accepts c name backend) (hnew : name ∉ t.names) :
      (perform (t, s) c).1.entries = t.entries ++ [(name, backend)] := by
    rw [perform_of_accepts hin, insert_eq_alter, Keyed.alter_of_notMem hnew]
  refine ⟨?_, hadded, ?_, fun hnot => perform_of_not_accepts hnot s⟩
  · rintro backend name rfl hname hused
    rw [perform_of_accepts (.register hname), insert_eq_alter, Keyed.alter_of_mem h.nodup hused]
    refine List.map_congr_left fun entry _ => ?_
    by_cases heq : entry.1 = name
    · rw [if_pos heq, if_pos heq, heq]
    · rw [if_neg heq, if_neg heq]
  · rintro e rfl
    obtain ⟨name, backend, hin, -⟩ | ⟨-, hafter⟩ := perform_cases t s (.take e)
    · have hnew : name ∉ t.names := by
        cases hin with
        | take _ _ hnew => exact hnew
      rw [hadded hin hnew]
      exact List.prefix_append _ _
    · exact hafter.symm ▸ List.prefix_rfl

/-- Behind any changes to an empty table, each of its names stands there once, in the order in which the names first came
in, over a class that reports it.  The next change obeys the rules for classes and entry points.  Only names that stand
there are found. -/
theorem records_and_obeys (s : Session) (changes : List Change) (c : Change) :
    let before := run s changes
    let after := run s (changes ++ [c])
    before.1.Records changes ∧ before.1.Obeys c after.1 ∧
      (∀ backend name, c = .register backend → backend.reportedName? = some name →
        (before.1.register backend).runOn before.2 = (.ok (some name, after.1), after.2)) ∧
      ((∀ name backend, ¬before.1.Accepts c name backend) →
        LeavesBe before.1 before.2 ((c.apply before.1).runOn before.2)) ∧
      ∀ name, before.1.LooksUp name := by
  intro before after
  have hrecords : before.1.Records changes := records_run s changes
  have hafter : after = perform before c := run_concat s changes c
  refine ⟨hrecords, hafter ▸ hrecords.obeys before.2 c, ?_, fun hnot => runOn_apply_of_not_accepts hnot before.2,
    before.1.looksUp⟩
  rintro backend name rfl hname
  rw [hafter, perform_of_accepts (.register hname), runOn_register hname]

/-- A class that is registered takes the place of the one with its name, a class of an entry point does not. -/
theorem records_and_obeys_override :
    let named (className name : Text) : BackendClass :=
      ⟨className, fun _ => .ok ⟨name, [], fun _ => Reference.compiler true⟩⟩
    let changes : List Change := [.register (named "A" "x"), .take ⟨"e", .failing (.overflow "")⟩,
      .take ⟨"e", .backend (named "B" "y")⟩, .register (named "C" "x")]
    let t := (run (.start 0) (changes ++ [.take ⟨"e", .backend (named "D" "x")⟩])).1
    t.names = ["x", "y"] ∧ (find? "x" t.entries).map (·.className) = some "C" := by
  intro named changes t
  obtain ⟨hrecords, hobeys, -⟩ :=
    records_and_obeys (.start 0) changes (.take ⟨"e", .backend (named "D" "x")⟩)
  have hkept : t = (run (.start 0) changes).1 := hobeys.unchanged fun name backend hin => by
    cases hin with
    | take htarget hname hnew =>
      cases htarget
      cases hname
      exact hnew (hrecords.names_eq ▸ by decide)
  rw [hkept, hrecords.names_eq, hrecords.find?_eq]
  exact ⟨rfl, rfl⟩

end Table

end Conformance.Backend
