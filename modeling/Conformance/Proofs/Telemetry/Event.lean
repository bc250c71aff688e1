import Conformance.Proofs.Document.Value
import Conformance.Proofs.Telemetry.Secret
import Mathlib.Data.List.Basic

/-!
# What is sent of an event

An event is scrubbed at some places: where frames stand, in the messages of the log and of the steps that led
to the event, and in mappings of further values.  A home directory that stands at any other place is sent.

Main results:

- `tellsHomes_scrubIfText`, `tellsHomes_scrubValue`: what is left of single values.
- `exists_changeMembers`, `exists_changeMap`: what is left of lists and mappings under a key.
- `exists_scrubFrame`, `exists_scrubException`, `exists_scrubCrumb`: what is left of the parts of an event.
- `scrubEvent_exposes`: the home directories that are sent are exactly the exposed ones.
-/

namespace Conformance.Telemetry

open Document

variable {name other : Text} {entries fields inner : List (Document × Document)} {t : Text}

/-! ## Shapes -/

/-- The value of a key, if it is there, is a list of values of a kind. -/
def ListOf (kind : Document → Prop) (name : Text) (entries : List (Document × Document)) : Prop :=
  ∀ value, valueOf? name entries = some value → ∃ items, value = .list items ∧ ∀ item ∈ items, kind item

theorem ListOf.imp {kind further : Document → Prop} (h : ListOf kind name entries)
    (himp : ∀ item, kind item → further item) : ListOf further name entries := by
  intro value hvalue
  obtain ⟨items, rfl, hitems⟩ := h value hvalue
  exact ⟨items, rfl, fun item hitem => himp item (hitems item hitem)⟩

/-- A mapping. -/
inductive IsMap : Document → Prop
  | map (entries : List (Document × Document)) : IsMap (.map entries)

/-- An exception: its frames, if it has any, are a list of mappings. -/
inductive IsException : Document → Prop
  | map {fields : List (Document × Document)} :
      (∀ trace, valueOf? "stacktrace" fields = some (.map trace) → ListOf IsMap "frames" trace) →
        IsException (.map fields)

/-- An event: its exceptions and the steps that led to it, if it has any, are lists. -/
inductive IsEvent : Document → Prop
  | map {entries : List (Document × Document)} :
      (∀ inner, valueOf? "exception" entries = some (.map inner) → ListOf IsException "values" inner) →
        (∀ inner, valueOf? "breadcrumbs" entries = some (.map inner) → ListOf IsMap "values" inner) →
          IsEvent (.map entries)

/-! ## Exposed texts -/

/-- A list under a key exposes what its members expose; what stands beside it is all exposed. -/
inductive ListExposes (name : Text) (exposes : Document → Text → Prop) (entries : List (Document × Document))
    (t : Text) : Prop
  | beside {key value : Document} : (key, value) ∈ entries → key.isText name = false → value.Tells t →
      ListExposes name exposes entries t
  | member {items : List Document} {item : Document} : valueOf? name entries = some (.list items) →
      item ∈ items → exposes item t → ListExposes name exposes entries t

/-- Fields expose what they tell, but for texts under the given names. -/
inductive FieldsExpose (names : List Text) (fields : List (Document × Document)) (t : Text) : Prop
  | field {key value : Document} : (key, value) ∈ fields →
      (∀ name ∈ names, key.isText name = true → ∀ text, value ≠ .text text) → value.Tells t →
        FieldsExpose names fields t

/-- A step that led to an event exposes all but its message, if that is a text. -/
inductive CrumbExposes : Document → Text → Prop
  | map {fields : List (Document × Document)} {t : Text} : FieldsExpose ["message"] fields t →
      CrumbExposes (.map fields) t

/-- A frame exposes all but its variables and the texts that say where it stands. -/
inductive FrameExposes : Document → Text → Prop
  | field {fields : List (Document × Document)} {key value : Document} {t : Text} : (key, value) ∈ fields →
      key.isText "vars" = false →
        (∀ name ∈ ([("filename" : Text), "abs_path"]), key.isText name = true → ∀ text, value ≠ .text text) →
          value.Tells t → FrameExposes (.map fields) t

/-- An exception exposes all but its frames, its message among them, and what its frames expose. -/
inductive ExceptionExposes : Document → Text → Prop
  | field {fields : List (Document × Document)} {key value : Document} {t : Text} : (key, value) ∈ fields →
      (key.isText "stacktrace" = true → ∀ trace, valueOf? "stacktrace" fields ≠ some (.map trace)) →
        value.Tells t → ExceptionExposes (.map fields) t
  | stacktrace {fields trace : List (Document × Document)} {t : Text} :
      valueOf? "stacktrace" fields = some (.map trace) → ListExposes "frames" FrameExposes trace t →
        ExceptionExposes (.map fields) t

/-- A further value exposes what stands in lists, unless these are inside a value that may be the text of a
fixture. -/
inductive ValueExposes : Document → Text → Prop
  | list {items : List Document} {t : Text} : Tells (.list items) t → ValueExposes (.list items) t
  | tuple {items : List Document} {t : Text} : Tells (.tuple items) t → ValueExposes (.tuple items) t
  | set {members : List Document} {t : Text} : Tells (.set members) t → ValueExposes (.set members) t
  | map {entries : List (Document × Document)} {key value : Document} {t : Text} : (key, value) ∈ entries →
      isSourceKey key = false → ValueExposes value t → ValueExposes (.map entries) t

/-- What stands under a key is exposed as a whole, unless it is a mapping, which exposes a part of what it
tells. -/
inductive SectionExposes (name : Text) (exposes : List (Document × Document) → Text → Prop)
    (entries : List (Document × Document)) (t : Text) : Prop
  | whole {value : Document} : valueOf? name entries = some value → (∀ inner, value ≠ .map inner) →
      value.Tells t → SectionExposes name exposes entries t
  | inside {inner : List (Document × Document)} : valueOf? name entries = some (.map inner) → exposes inner t →
      SectionExposes name exposes entries t

/-- The sections of an event that are scrubbed. -/
def sections : List Text :=
  ["exception", "logentry", "breadcrumbs", "extra"]

/-- A text of one of these sections that is sent as it is. -/
inductive Exposed : Document → Text → Prop
  | exception {entries : List (Document × Document)} {t : Text} :
      SectionExposes "exception" (ListExposes "values" ExceptionExposes) entries t → Exposed (.map entries) t
  | logentry {entries : List (Document × Document)} {t : Text} :
      SectionExposes "logentry" (FieldsExpose ["message"]) entries t → Exposed (.map entries) t
  | breadcrumbs {entries : List (Document × Document)} {t : Text} :
      SectionExposes "breadcrumbs" (ListExposes "values" CrumbExposes) entries t → Exposed (.map entries) t
  | extra {entries : List (Document × Document)} {t : Text} :
      SectionExposes "extra" (fun inner => ValueExposes (.map inner)) entries t → Exposed (.map entries) t

/-- Of the texts with a home directory, a document tells exactly these. -/
def TellsHomes (d : Document) (exposed : Text → Prop) : Prop :=
  ∀ t, HasHome t.toList → (d.Tells t ↔ exposed t)

/-! ## Values of keys -/

theorem isText_eq_false_of_valueOf?_eq_none {entry : Document × Document} (h : valueOf? name entries = none)
    (hentry : entry ∈ entries) : entry.1.isText name = false := by
  induction entries with
  | nil => cases hentry
  | cons first rest ih =>
      obtain ⟨key, value⟩ := first
      unfold valueOf? lookupBy at h
      split at h
      · cases h
      · rename_i hkey
        rcases List.mem_cons.mp hentry with rfl | hrest
        · exact Bool.eq_false_iff.mpr hkey
        · exact ih h hrest

theorem exists_mem_of_valueOf? {value : Document} (h : valueOf? name entries = some value) :
    ∃ key, (key, value) ∈ entries ∧ key.isText name = true := by
  induction entries with
  | nil => cases h
  | cons first rest ih =>
      obtain ⟨key, found⟩ := first
      unfold valueOf? lookupBy at h
      split at h
      · rename_i hkey
        cases h
        exact ⟨key, List.mem_cons_self, hkey⟩
      · obtain ⟨key, hmem, hkey⟩ := ih h
        exact ⟨key, List.mem_cons_of_mem _ hmem, hkey⟩

theorem isText_of_isText_of_ne {key : Document} (hne : other ≠ name) (hkey : key.isText other = true) :
    key.isText name = false := by
  cases key with
  | text found =>
      obtain rfl : found = other := beq_iff_eq.mp hkey
      exact beq_false_of_ne hne
  | _ => rfl

theorem valueOf?_change_of_ne (hne : other ≠ name) (f : Document → Document) :
    valueOf? other (change name f entries) = valueOf? other entries := by
  induction entries with
  | nil => rfl
  | cons first rest ih =>
      obtain ⟨key, value⟩ := first
      unfold change valueOf? at ih ⊢
      rw [List.map_cons, lookupBy, lookupBy, ih]
      by_cases hkey : key.isText other = true
      · rw [if_pos hkey, if_pos hkey, isText_of_isText_of_ne hne hkey]
        rfl
      · rw [if_neg hkey, if_neg hkey]

theorem valueOf?_change_const (value : Document) :
    valueOf? name (change name (fun _ => value) entries) = (valueOf? name entries).map fun _ => value := by
  induction entries with
  | nil => rfl
  | cons first rest ih =>
      obtain ⟨key, old⟩ := first
      unfold change valueOf? at ih ⊢
      rw [List.map_cons, lookupBy, lookupBy, ih]
      by_cases hkey : key.isText name = true
      · rw [if_pos hkey, if_pos hkey, if_pos hkey]
        rfl
      · rw [if_neg hkey, if_neg hkey]

theorem valueOf?_without_of_ne (hne : other ≠ name) :
    valueOf? other (without name entries) = valueOf? other entries := by
  induction entries with
  | nil => rfl
  | cons first rest ih =>
      obtain ⟨key, value⟩ := first
      unfold without valueOf? at ih ⊢
      by_cases hkey : key.isText name = true
      · have hother : key.isText other = false := isText_of_isText_of_ne hne.symm hkey
        rw [List.filter_cons_of_neg (by simpa using hkey), ih, lookupBy, hother]
        rfl
      · rw [List.filter_cons_of_pos (by simpa using hkey), lookupBy, lookupBy, ih]

/-! ## Single values -/

theorem tellsHomes_scrubIfText (d : Document) :
    TellsHomes (scrubIfText d) fun t => (∀ text, d ≠ .text text) ∧ d.Tells t := by
  intro t ht
  cases d with
  | text value =>
      rw [scrubIfText, tells_text_iff]
      constructor
      · rintro rfl
        exact absurd ht (not_hasHome_scrubText value)
      · rintro ⟨hne, -⟩
        exact absurd rfl (hne value)
  | _ => simp [scrubIfText]

theorem not_tells_text_redacted (ht : HasHome t.toList) : ¬Tells (.text redacted) t := by
  rw [tells_text_iff]
  rintro rfl
  obtain ⟨rest, hsuffix, hstarts⟩ := ht
  obtain ⟨first, later, rfl, -⟩ := hstarts.exists_cons_cons
  have hslash : CodePoint.char '/' ∉ redacted.toList := by decide
  exact hslash (hsuffix.subset List.mem_cons_self)

mutual

/-- What is left of a further value. -/
theorem tellsHomes_scrubValue : ∀ d : Document, TellsHomes (scrubValue d) (ValueExposes d)
  | .text value => by
      intro t ht
      rw [scrubValue, tells_text_iff]
      constructor
      · rintro rfl
        exact absurd ht (not_hasHome_scrubText value)
      · rintro ⟨⟩
  | .map entries => by
      intro t ht
      rw [scrubValue, tells_map_iff, exists_tells_scrubEntries entries t ht]
      constructor
      · rintro ⟨⟨key, value⟩, hentry, hkey, hvalue⟩
        exact .map hentry hkey hvalue
      · rintro (_ | _ | _ | ⟨hentry, hkey, hvalue⟩)
        exact ⟨_, hentry, hkey, hvalue⟩
  | .list items => fun t _ => ⟨.list, fun | .list h => h⟩
  | .tuple items => fun t _ => ⟨.tuple, fun | .tuple h => h⟩
  | .set members => fun t _ => ⟨.set, fun | .set h => h⟩
  | .null => fun t _ => ⟨nofun, nofun⟩
  | .bool _ => fun t _ => ⟨nofun, nofun⟩
  | .int _ => fun t _ => ⟨nofun, nofun⟩
  | .float _ => fun t _ => ⟨nofun, nofun⟩
  | .bytes _ => fun t _ => ⟨nofun, nofun⟩
  | .date _ => fun t _ => ⟨nofun, nofun⟩
  | .moment _ => fun t _ => ⟨nofun, nofun⟩
  | .enclosing _ => fun t _ => ⟨nofun, nofun⟩
termination_by structural d => d

/-- What is left of the entries of a mapping of further values. -/
theorem exists_tells_scrubEntries : ∀ (entries : List (Document × Document)) (t : Text), HasHome t.toList →
    ((∃ entry ∈ scrubEntries entries, Tells entry.2 t) ↔
      ∃ entry ∈ entries, isSourceKey entry.1 = false ∧ ValueExposes entry.2 t)
  | [], t, _ => by simp [scrubEntries]
  | (key, value) :: rest, t, ht => by
      rw [scrubEntries, List.exists_mem_cons_iff, List.exists_mem_cons_iff, exists_tells_scrubEntries rest t ht]
      refine or_congr ?_ Iff.rfl
      cases hkey : isSourceKey key with
      | true => simpa using not_tells_text_redacted ht
      | false => simpa using tellsHomes_scrubValue value t ht
termination_by structural entries => entries

end

/-! ## Parts of mappings -/

theorem mem_change {key value : Document} (name : Text) (f : Document → Document) (h : (key, value) ∈ entries) :
    (key, if key.isText name then f value else value) ∈ change name f entries :=
  List.mem_map_of_mem h

/-- A change of the value of a key leaves what stands beside it. -/
theorem tells_change_iff {f : Document → Document} :
    Tells (.map (change name f entries)) t ↔
      (∃ entry ∈ entries, entry.1.isText name = false ∧ entry.2.Tells t) ∨
        ∃ entry ∈ entries, entry.1.isText name = true ∧ (f entry.2).Tells t := by
  rw [tells_map_iff]
  constructor
  · rintro ⟨_, hmem, htells⟩
    obtain ⟨⟨key, value⟩, hentry, rfl⟩ := List.mem_map.mp hmem
    cases hkey : key.isText name with
    | true => exact .inr ⟨_, hentry, hkey, by simpa [hkey] using htells⟩
    | false => exact .inl ⟨_, hentry, hkey, by simpa [hkey] using htells⟩
  · rintro (⟨⟨key, value⟩, hentry, hkey, htells⟩ | ⟨⟨key, value⟩, hentry, hkey, htells⟩)
    · exact ⟨_, mem_change name f hentry, by simpa [hkey] using htells⟩
    · exact ⟨_, mem_change name f hentry, by simpa [hkey] using htells⟩

/-- A value that is put in the place of that of a key is told if the key is there. -/
theorem tells_change_const_iff {value found : Document} (h : valueOf? name entries = some found) :
    Tells (.map (change name (fun _ => value) entries)) t ↔
      (∃ entry ∈ entries, entry.1.isText name = false ∧ entry.2.Tells t) ∨ value.Tells t := by
  rw [tells_change_iff]
  refine or_congr_right ⟨fun ⟨_, _, _, htells⟩ => htells, fun htells => ?_⟩
  obtain ⟨key, hmem, hkey⟩ := exists_mem_of_valueOf? h
  exact ⟨_, hmem, hkey, htells⟩

@[simp]
theorem fieldsExpose_nil_iff : FieldsExpose [] fields t ↔ Tells (.map fields) t := by
  constructor
  · rintro ⟨hfield, -, htells⟩
    exact .map hfield htells
  · rintro (_ | _ | _ | _ | ⟨hfield, htells⟩)
    exact .field hfield (fun _ hname => nomatch hname) htells

theorem scrubIfText_of_ne {d : Document} (h : ∀ text, d ≠ .text text) : scrubIfText d = d := by
  cases d with
  | text value => exact absurd rfl (h value)
  | _ => rfl

/-- Scrubbing the texts under a name takes them from what the fields expose. -/
theorem fieldsExpose_change_iff {names : List Text} (ht : HasHome t.toList) :
    FieldsExpose names (change name scrubIfText fields) t ↔ FieldsExpose (name :: names) fields t := by
  constructor
  · rintro ⟨hmem, hnot, htells⟩
    obtain ⟨⟨key, value⟩, hfield, heq⟩ := List.mem_map.mp hmem
    obtain ⟨rfl, rfl⟩ := Prod.mk.inj heq
    cases hkey : key.isText name with
    | false =>
        rw [hkey] at hnot htells
        refine .field hfield (List.forall_mem_cons.mpr ⟨fun h => ?_, hnot⟩) htells
        cases hkey.symm.trans h
    | true =>
        rw [hkey] at htells
        obtain ⟨hne, htells⟩ := (tellsHomes_scrubIfText value t ht).mp htells
        exact .field hfield (fun _ _ _ => hne) htells
  · rintro ⟨hfield, hnot, htells⟩
    rename_i key value
    obtain ⟨hne, hnot⟩ := List.forall_mem_cons.mp hnot
    have hsame : (if key.isText name then scrubIfText value else value) = value := by
      split
      · rename_i hkey
        exact scrubIfText_of_ne (hne hkey)
      · rfl
    have hmem := mem_change name scrubIfText hfield
    rw [hsame] at hmem
    exact .field hmem hnot htells

theorem tellsHomes_message (fields : List (Document × Document)) :
    TellsHomes (.map (change "message" scrubIfText fields)) (FieldsExpose ["message"] fields) := by
  intro t ht
  rw [← fieldsExpose_nil_iff, fieldsExpose_change_iff ht]

/-- Members that can be changed one by one can be changed together. -/
theorem exists_mapM {f : Document → Except Failure Document} {exposes : Document → Text → Prop}
    {items : List Document}
    (h : ∀ item ∈ items, ∃ changed, f item = .ok changed ∧ TellsHomes changed (exposes item)) :
    ∃ changed, items.mapM f = .ok changed ∧
      TellsHomes (.list changed) fun t => ∃ item ∈ items, exposes item t := by
  induction items with
  | nil => exact ⟨[], rfl, fun t _ => by simp [tells_list_iff]⟩
  | cons item rest ih =>
      obtain ⟨hitem, hrest⟩ := List.forall_mem_cons.mp h
      obtain ⟨first, hfirst, htells⟩ := hitem
      obtain ⟨later, hlater, hothers⟩ := ih hrest
      refine ⟨first :: later, ?_, fun t ht => ?_⟩
      · rw [List.mapM_cons, hfirst, hlater]
        rfl
      · have hothers := tells_list_iff.symm.trans (hothers t ht)
        rw [tells_list_iff, List.exists_mem_cons_iff, htells t ht, hothers]
        exact (List.exists_mem_cons_iff (fun item => exposes item t) item rest).symm

/-- What is left of a list under a key. -/
theorem exists_changeMembers {f : Document → Except Failure Document} {exposes : Document → Text → Prop}
    (h : ListOf (fun item => ∃ changed, f item = .ok changed ∧ TellsHomes changed (exposes item)) name entries) :
    ∃ changed, changeMembers name f entries = .ok changed ∧
      TellsHomes (.map changed) (ListExposes name exposes entries) := by
  unfold changeMembers
  cases hvalue : valueOf? name entries with
  | none =>
      refine ⟨entries, rfl, fun t _ => ?_⟩
      rw [tells_map_iff]
      constructor
      · rintro ⟨entry, hentry, htells⟩
        exact .beside hentry (isText_eq_false_of_valueOf?_eq_none hvalue hentry) htells
      · rintro (⟨hentry, -, htells⟩ | ⟨hitems, -⟩)
        · exact ⟨_, hentry, htells⟩
        · cases hvalue.symm.trans hitems
  | some value =>
      obtain ⟨items, rfl, hitems⟩ := h value hvalue
      obtain ⟨changed, hchanged, htells⟩ := exists_mapM hitems
      refine ⟨change name (fun _ => .list changed) entries, ?_, fun t ht => ?_⟩
      · change (items.mapM f >>= fun changed => _) = _
        rw [hchanged]
        rfl
      · rw [tells_change_const_iff hvalue, htells t ht]
        constructor
        · rintro (⟨entry, hentry, hkey, htells⟩ | ⟨item, hitem, hexposes⟩)
          · exact .beside hentry hkey htells
          · exact .member hvalue hitem hexposes
        · rintro (⟨hentry, hkey, htells⟩ | ⟨hfound, hitem, hexposes⟩)
          · exact .inl ⟨_, hentry, hkey, htells⟩
          · cases hvalue.symm.trans hfound
            exact .inr ⟨_, hitem, hexposes⟩

/-- A mapping under a key is changed, and anything else is left as it is. -/
theorem changeMap_cases (name : Text)
    (f : List (Document × Document) → Except Failure (List (Document × Document)))
    (entries : List (Document × Document)) :
    (∃ inner, valueOf? name entries = some (.map inner) ∧
      changeMap name f entries = (f inner).map fun changed => change name (fun _ => .map changed) entries) ∨
    (∀ inner, valueOf? name entries ≠ some (.map inner)) ∧ changeMap name f entries = .ok entries := by
  unfold changeMap
  split
  · rename_i inner hinner
    refine .inl ⟨inner, hinner, ?_⟩
    cases f inner <;> rfl
  · rename_i hother
    exact .inr ⟨fun inner hinner => hother inner hinner, rfl⟩

/-- A section of an event has been scrubbed.  What stands under other keys stays as it was. -/
structure Scrubbed (name : Text) (exposes : List (Document × Document) → Text → Prop)
    (before after : List (Document × Document)) : Prop where
  others : ∀ other, other ≠ name → valueOf? other after = valueOf? other before
  told : ∀ t, HasHome t.toList →
    ((∃ value, valueOf? name after = some value ∧ value.Tells t) ↔ SectionExposes name exposes before t)

/-- What is told under a key after the mapping there has been changed. -/
theorem exists_changeMap (name : Text) (entries : List (Document × Document))
    {f : List (Document × Document) → Except Failure (List (Document × Document))}
    {exposes : List (Document × Document) → Text → Prop}
    (h : ∀ inner, valueOf? name entries = some (.map inner) →
      ∃ changed, f inner = .ok changed ∧ TellsHomes (.map changed) (exposes inner)) :
    ∃ changed, changeMap name f entries = .ok changed ∧ Scrubbed name exposes entries changed := by
  rcases changeMap_cases name f entries with ⟨inner, hinner, hchange⟩ | ⟨hother, hchange⟩
  · obtain ⟨changed, hchanged, htells⟩ := h inner hinner
    refine ⟨_, hchange.trans (congrArg _ hchanged), fun other hne => valueOf?_change_of_ne hne _,
      fun t ht => ?_⟩
    have hnow : valueOf? name (change name (fun _ => .map changed) entries) = some (.map changed) := by
      rw [valueOf?_change_const, hinner]
      rfl
    constructor
    · rintro ⟨value, hvalue, htold⟩
      cases hnow.symm.trans hvalue
      exact .inside hinner ((htells t ht).mp htold)
    · rintro (⟨hvalue, hne, -⟩ | ⟨hvalue, hexposes⟩)
      · cases hinner.symm.trans hvalue
        exact absurd rfl (hne inner)
      · cases hinner.symm.trans hvalue
        exact ⟨_, hnow, (htells t ht).mpr hexposes⟩
  · refine ⟨entries, hchange, fun _ _ => rfl, fun t _ => ⟨?_, ?_⟩⟩
    · rintro ⟨value, hvalue, htells⟩
      exact .whole hvalue (fun inner heq => hother inner (heq ▸ hvalue)) htells
    · rintro (⟨hvalue, -, htells⟩ | ⟨hinner, -⟩)
      · exact ⟨_, hvalue, htells⟩
      · exact absurd hinner (hother _)

/-- What a mapping tells after the mapping under a key has been changed. -/
theorem exists_changeMap_inside
    (f : List (Document × Document) → Except Failure (List (Document × Document)))
    {exposes : List (Document × Document) → Text → Prop}
    (h : ∀ inner, valueOf? name entries = some (.map inner) →
      ∃ changed, f inner = .ok changed ∧ TellsHomes (.map changed) (exposes inner)) :
    ∃ changed, changeMap name f entries = .ok changed ∧ TellsHomes (.map changed) fun t =>
      (∃ entry ∈ entries, (entry.1.isText name = true → ∀ inner, valueOf? name entries ≠ some (.map inner)) ∧
        entry.2.Tells t) ∨ ∃ inner, valueOf? name entries = some (.map inner) ∧ exposes inner t := by
  rcases changeMap_cases name f entries with ⟨inner, hinner, hchange⟩ | ⟨hother, hchange⟩
  · obtain ⟨changed, hchanged, htells⟩ := h inner hinner
    refine ⟨_, hchange.trans (congrArg _ hchanged), fun t ht => ?_⟩
    rw [tells_change_const_iff hinner, htells t ht]
    refine or_congr (exists_congr fun entry => and_congr_right fun _ => and_congr_left fun _ => ?_) ?_
    · simp [hinner]
    · simp [hinner]
  · refine ⟨entries, hchange, fun t _ => ?_⟩
    simp [tells_map_iff, hother]

/-! ## Parts of events -/

theorem exists_scrubFrame {frame : Document} (h : IsMap frame) :
    ∃ scrubbed, scrubFrame frame = .ok scrubbed ∧ TellsHomes scrubbed (FrameExposes frame) := by
  cases h with
  | map fields =>
      refine ⟨_, rfl, fun t ht => ?_⟩
      rw [← fieldsExpose_nil_iff, fieldsExpose_change_iff ht, fieldsExpose_change_iff ht]
      constructor
      · rintro ⟨hfield, hnot, htells⟩
        obtain ⟨hfield, hvars⟩ := List.mem_filter.mp hfield
        exact .field hfield (by simpa using hvars) hnot htells
      · rintro ⟨hfield, hvars, hnot, htells⟩
        exact .field (List.mem_filter.mpr ⟨hfield, by simpa using hvars⟩) hnot htells

theorem exists_scrubCrumb {crumb : Document} (h : IsMap crumb) :
    ∃ scrubbed, scrubCrumb crumb = .ok scrubbed ∧ TellsHomes scrubbed (CrumbExposes crumb) := by
  cases h with
  | map fields =>
      refine ⟨_, rfl, fun t ht => (tellsHomes_message fields t ht).trans ⟨.map, ?_⟩⟩
      rintro ⟨hfields⟩
      exact hfields

/-- Frames are scrubbed as the value of a key of their exception is changed. -/
theorem scrubException_map (fields : List (Document × Document)) :
    scrubException (.map fields) =
      (changeMap "stacktrace" (changeMembers "frames" scrubFrame) fields).map .map := by
  simp only [scrubException, changeMap, askedEntries, bind, Except.bind]
  split
  · cases changeMembers "frames" scrubFrame _ <;> rfl
  · rfl

theorem exists_scrubException {exception : Document} (h : IsException exception) :
    ∃ scrubbed, scrubException exception = .ok scrubbed ∧ TellsHomes scrubbed (ExceptionExposes exception) := by
  cases h with
  | @map fields hframes =>
      obtain ⟨changed, hchanged, htells⟩ := exists_changeMap_inside (changeMembers "frames" scrubFrame)
        fun trace htrace => exists_changeMembers ((hframes trace htrace).imp fun _ => exists_scrubFrame)
      refine ⟨.map changed, ?_, fun t ht => (htells t ht).trans ⟨?_, ?_⟩⟩
      · rw [scrubException_map, hchanged]
        rfl
      · rintro (⟨entry, hentry, hstacktrace, htells⟩ | ⟨trace, htrace, hexposes⟩)
        · exact .field hentry hstacktrace htells
        · exact .stacktrace htrace hexposes
      · rintro (⟨hentry, hstacktrace, htells⟩ | ⟨htrace, hexposes⟩)
        · exact .inl ⟨_, hentry, hstacktrace, htells⟩
        · exact .inr ⟨_, htrace, hexposes⟩

/-! ## Events -/

theorem exists_scrubExceptions
    (h : ∀ inner, valueOf? "exception" entries = some (.map inner) → ListOf IsException "values" inner) :
    ∃ changed, changeMap "exception" (changeMembers "values" scrubException) entries = .ok changed ∧
      Scrubbed "exception" (ListExposes "values" ExceptionExposes) entries changed := by
  refine exists_changeMap "exception" entries fun inner hinner => ?_
  exact exists_changeMembers ((h inner hinner).imp fun _ => exists_scrubException)

theorem exists_scrubCrumbs
    (h : ∀ inner, valueOf? "breadcrumbs" entries = some (.map inner) → ListOf IsMap "values" inner) :
    ∃ changed, changeMap "breadcrumbs" (changeMembers "values" scrubCrumb) entries = .ok changed ∧
      Scrubbed "breadcrumbs" (ListExposes "values" CrumbExposes) entries changed := by
  refine exists_changeMap "breadcrumbs" entries fun inner hinner => ?_
  exact exists_changeMembers ((h inner hinner).imp fun _ => exists_scrubCrumb)

theorem exists_scrubMessage (entries : List (Document × Document)) :
    ∃ changed,
      changeMap "logentry" (fun inner => .ok (change "message" scrubIfText inner)) entries = .ok changed ∧
        Scrubbed "logentry" (FieldsExpose ["message"]) entries changed :=
  exists_changeMap "logentry" entries fun inner _ => ⟨_, rfl, tellsHomes_message inner⟩

theorem exists_scrubExtra (entries : List (Document × Document)) :
    ∃ changed, changeMap "extra" (fun inner => .ok (scrubEntries inner)) entries = .ok changed ∧
      Scrubbed "extra" (fun inner => ValueExposes (.map inner)) entries changed :=
  exists_changeMap "extra" entries fun inner _ =>
    ⟨_, rfl, by simpa only [scrubValue] using tellsHomes_scrubValue (.map inner)⟩

theorem sectionExposes_congr {exposes : List (Document × Document) → Text → Prop}
    {before : List (Document × Document)} (h : valueOf? name before = valueOf? name entries) :
    SectionExposes name exposes before t ↔ SectionExposes name exposes entries t := by
  constructor
  · rintro (⟨hvalue, hne, htells⟩ | ⟨hinner, hinside⟩)
    · exact .whole (h.symm.trans hvalue) hne htells
    · exact .inside (h.symm.trans hinner) hinside
  · rintro (⟨hvalue, hne, htells⟩ | ⟨hinner, hinside⟩)
    · exact .whole (h.trans hvalue) hne htells
    · exact .inside (h.trans hinner) hinside

theorem exposed_map_iff :
    Exposed (.map entries) t ↔
      SectionExposes "exception" (ListExposes "values" ExceptionExposes) entries t ∨
        SectionExposes "logentry" (FieldsExpose ["message"]) entries t ∨
          SectionExposes "breadcrumbs" (ListExposes "values" CrumbExposes) entries t ∨
            SectionExposes "extra" (fun inner => ValueExposes (.map inner)) entries t := by
  constructor
  · rintro (h | h | h | h)
    · exact .inl h
    · exact .inr (.inl h)
    · exact .inr (.inr (.inl h))
    · exact .inr (.inr (.inr h))
  · rintro (h | h | h | h)
    · exact .exception h
    · exact .logentry h
    · exact .breadcrumbs h
    · exact .extra h

/-- Exactly the exposed home directories of an event are sent. -/
theorem scrubEvent_exposes {event : Document} (h : IsEvent event) :
    ∃ sent, scrubEvent event = .ok sent ∧ ∀ t, HasHome t.toList →
      ((∃ name ∈ sections, ∃ value, sent.get? name = some value ∧ value.Tells t) ↔ Exposed event t) := by
  cases h with
  | @map entries hexceptions hcrumbs =>
      obtain ⟨first, hfirst, hscrubbed₁⟩ := exists_scrubExceptions hexceptions
      obtain ⟨second, hsecond, hscrubbed₂⟩ := exists_scrubMessage first
      have hbefore : valueOf? "breadcrumbs" second = valueOf? "breadcrumbs" entries :=
        (hscrubbed₂.others _ (by decide)).trans (hscrubbed₁.others _ (by decide))
      obtain ⟨third, hthird, hscrubbed₃⟩ := exists_scrubCrumbs fun inner hinner =>
        hcrumbs inner (hbefore.symm.trans hinner)
      obtain ⟨fourth, hfourth, hscrubbed₄⟩ := exists_scrubExtra third
      refine ⟨.map (without "server_name" fourth), ?_, fun t ht => ?_⟩
      · simp only [scrubEvent, askedEntries, bind, Except.bind, hfirst, hsecond, hthird, hfourth]
        rfl
      · -- Each section is scrubbed once.  Before and after that it stays as it is.
        have hextra : valueOf? "extra" third = valueOf? "extra" entries :=
          ((hscrubbed₃.others _ (by decide)).trans (hscrubbed₂.others _ (by decide))).trans
            (hscrubbed₁.others _ (by decide))
        have hexception : valueOf? "exception" fourth = valueOf? "exception" first :=
          ((hscrubbed₄.others _ (by decide)).trans (hscrubbed₃.others _ (by decide))).trans
            (hscrubbed₂.others _ (by decide))
        have hlogentry : valueOf? "logentry" fourth = valueOf? "logentry" second :=
          (hscrubbed₄.others _ (by decide)).trans (hscrubbed₃.others _ (by decide))
        have hbreadcrumbs : valueOf? "breadcrumbs" fourth = valueOf? "breadcrumbs" third :=
          hscrubbed₄.others _ (by decide)
        have hsent : ∀ name ∈ sections,
            (Document.map (without "server_name" fourth)).get? name = valueOf? name fourth := by
          intro name hname
          refine valueOf?_without_of_ne ?_
          rintro rfl
          exact absurd hname (by decide)
        rw [exposed_map_iff, ← hscrubbed₁.told t ht,
          ← sectionExposes_congr (hscrubbed₁.others "logentry" (by decide)), ← hscrubbed₂.told t ht,
          ← sectionExposes_congr hbefore, ← hscrubbed₃.told t ht,
          ← sectionExposes_congr hextra, ← hscrubbed₄.told t ht,
          ← hexception, ← hlogentry, ← hbreadcrumbs]
        rw [exists_congr fun name => and_congr_right fun hname => by rw [hsent name hname]]
        simp only [sections, List.exists_mem_cons_iff, List.not_mem_nil, false_and, exists_false, or_false]

/-- The message of an exception is sent with the home directory in it. -/
theorem scrubEvent_exposes_message :
    ∃ sent, scrubEvent (.map [(.text "exception", .map [(.text "values", .list [.map
        [(.text "type", .text "OSError"), (.text "value", .text "/home/alice/a.sv")]])])]) = .ok sent ∧
      ∃ name ∈ sections, ∃ value, sent.get? name = some value ∧ value.Tells "/home/alice/a.sv" := by
  have hhome : HasHome ("/home/alice/a.sv" : Text).toList :=
    ⟨_, List.suffix_rfl, "home", by decide, .char 'a', ("lice/a.sv" : Text).toList, by decide⟩
  have hevent : IsEvent (.map [(.text "exception", .map [(.text "values", .list [.map
      [(.text "type", .text "OSError"), (.text "value", .text "/home/alice/a.sv")]])])]) := by
    refine .map ?_ nofun
    rintro inner ⟨⟩ value ⟨⟩
    refine ⟨_, rfl, fun item hitem => ?_⟩
    obtain rfl := List.mem_singleton.mp hitem
    exact .map nofun
  obtain ⟨sent, hsent, htold⟩ := scrubEvent_exposes hevent
  refine ⟨sent, hsent, (htold _ hhome).mpr (.exception (.inside rfl ?_))⟩
  refine .member rfl List.mem_cons_self (.field (List.mem_cons_of_mem _ List.mem_cons_self) ?_ (.text _))
  nofun

end Conformance.Telemetry
