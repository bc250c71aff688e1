import Conformance.Document.Basic

/-!
# Documents as values

Documents can be compared, and what stands in one can be looked up along a path of keys.  A mapping is known
by what stands at the ends of paths, whatever the order of its keys.  A list holds its items, and a mapping the values
of its keys.  Each of these can be a list or a mapping again, so that a value has a place: the positions that lead to
it from outside.

Main results:

- `Document.same_iff`: documents that are compared part by part are equal.
- `Document.inside_induction`: what passes from the values inside a value to the value itself holds of every value.
- `Document.place?_mapTexts`: a change of all texts changes each of them where it stands.
- `Document.mapTexts_congr`: only the texts of a value matter for the change of its texts.
-/

namespace Conformance.Document

/-! ## Equality -/

mutual

/-- Compare two documents part by part. -/
def same : Document → Document → Bool
  | .null, .null => true
  | .bool a, .bool b => a == b
  | .int a, .int b => a == b
  | .float a, .float b => decide (a = b)
  | .text a, .text b => a == b
  | .bytes a, .bytes b => a == b
  | .date a, .date b => a == b
  | .moment a, .moment b => a == b
  | .list a, .list b => sameItems a b
  | .tuple a, .tuple b => sameItems a b
  | .set a, .set b => sameItems a b
  | .map a, .map b => sameEntries a b
  | .enclosing a, .enclosing b => a == b
  | _, _ => false
termination_by structural a => a

/-- Compare the parts of two collections. -/
def sameItems : List Document → List Document → Bool
  | [], [] => true
  | a :: as, b :: bs => same a b && sameItems as bs
  | _, _ => false
termination_by structural as => as

/-- Compare the entries of two mappings. -/
def sameEntries : List (Document × Document) → List (Document × Document) → Bool
  | [], [] => true
  | (k, a) :: as, (l, b) :: bs => same k l && same a b && sameEntries as bs
  | _, _ => false
termination_by structural as => as

end

mutual

theorem same_iff : ∀ a b : Document, same a b = true ↔ a = b
  | .null, b => by cases b <;> simp [same]
  | .bool _, b => by cases b <;> simp [same]
  | .int _, b => by cases b <;> simp [same]
  | .float _, b => by cases b <;> simp [same]
  | .text _, b => by cases b <;> simp [same]
  | .bytes _, b => by cases b <;> simp [same]
  | .date _, b => by cases b <;> simp [same]
  | .moment _, b => by cases b <;> simp [same]
  | .list as, b => by cases b <;> simp [same, sameItems_iff as]
  | .tuple as, b => by cases b <;> simp [same, sameItems_iff as]
  | .set as, b => by cases b <;> simp [same, sameItems_iff as]
  | .map as, b => by cases b <;> simp [same, sameEntries_iff as]
  | .enclosing _, b => by cases b <;> simp [same]
termination_by structural a => a

theorem sameItems_iff : ∀ as bs : List Document, sameItems as bs = true ↔ as = bs
  | [], bs => by cases bs <;> simp [sameItems]
  | a :: as, bs => by cases bs <;> simp [sameItems, same_iff a, sameItems_iff as]
termination_by structural as => as

theorem sameEntries_iff : ∀ as bs : List (Document × Document), sameEntries as bs = true ↔ as = bs
  | [], bs => by cases bs <;> simp [sameEntries]
  | (k, a) :: as, [] => by simp [sameEntries]
  | (k, a) :: as, (l, b) :: bs => by
      simp [sameEntries, same_iff k, same_iff a, sameEntries_iff as, and_assoc]
termination_by structural as => as

end

instance : DecidableEq Document := fun a b =>
  decidable_of_iff (same a b = true) (same_iff a b)

/-! ## Paths -/

/-- The value at the end of a path of keys. -/
def at? (d : Document) (names : List Text) : Option Document :=
  names.foldlM (fun d name => d.get? name) d

theorem at?_cons (d : Document) (name : Text) (rest : List Text) :
    d.at? (name :: rest) = (d.get? name).bind (·.at? rest) :=
  rfl

/-- A document holds another one if what stands in that one at the end of a path stands there in the document,
too.  For mappings this is asked of their values, so that neither the order of keys nor further keys
matter. -/
def Holds (d other : Document) : Prop :=
  ∀ names value, other.at? names = some value → (∀ entries, value ≠ .map entries) → d.at? names = some value

theorem Holds.refl (d : Document) : d.Holds d :=
  fun _ _ h _ => h

/-! ## Texts -/

/-- A text stands among the values of a document, however deep.  The keys of mappings do not count. -/
inductive Tells : Document → Text → Prop
  | text (t : Text) : Tells (.text t) t
  | list {items : List Document} {item : Document} {t : Text} : item ∈ items → Tells item t →
      Tells (.list items) t
  | tuple {items : List Document} {item : Document} {t : Text} : item ∈ items → Tells item t →
      Tells (.tuple items) t
  | set {members : List Document} {item : Document} {t : Text} : item ∈ members → Tells item t →
      Tells (.set members) t
  | map {entries : List (Document × Document)} {key value : Document} {t : Text} : (key, value) ∈ entries →
      Tells value t → Tells (.map entries) t

@[simp]
theorem tells_text_iff {text t : Text} : Tells (.text text) t ↔ t = text := by
  constructor
  · intro h
    cases h
    rfl
  · rintro rfl
    exact .text t

theorem tells_list_iff {items : List Document} {t : Text} :
    Tells (.list items) t ↔ ∃ item ∈ items, Tells item t := by
  constructor
  · intro h
    cases h with
    | list hitem htells => exact ⟨_, hitem, htells⟩
  · rintro ⟨item, hitem, htells⟩
    exact .list hitem htells

theorem tells_map_iff {entries : List (Document × Document)} {t : Text} :
    Tells (.map entries) t ↔ ∃ entry ∈ entries, Tells entry.2 t := by
  constructor
  · intro h
    cases h with
    | map hentry htells => exact ⟨_, hentry, htells⟩
  · rintro ⟨⟨key, value⟩, hentry, htells⟩
    exact .map hentry htells

/-! ## Places -/

section Places

variable {d value : Document} {f g : Text → Text} {path : List Nat} {t : Text}

/-- The values that stand in a list, or under the keys of a mapping, in order. -/
def inside : Document → List Document
  | .list items => items
  | .map entries => entries.map (·.2)
  | _ => []

/-- The value at the end of a path of positions. -/
def place? : List Nat → Document → Option Document
  | [], d => some d
  | n :: path, d => d.inside[n]?.bind (place? path)

@[simp]
theorem place?_nil (d : Document) : place? [] d = some d :=
  rfl

theorem place?_cons (n : Nat) (path : List Nat) (d : Document) :
    place? (n :: path) d = d.inside[n]?.bind (place? path) :=
  rfl

theorem place?_cons_eq_some_iff {n : Nat} :
    place? (n :: path) d = some value ↔ ∃ inner, d.inside[n]? = some inner ∧ place? path inner = some value :=
  Option.bind_eq_some_iff

theorem sizeOf_lt_of_mem_inside (h : value ∈ d.inside) : sizeOf value < sizeOf d := by
  cases d with
  | list items =>
      have hlt : sizeOf value < sizeOf items := List.sizeOf_lt_of_mem h
      simp only [list.sizeOf_spec]
      omega
  | map entries =>
      obtain ⟨⟨key, found⟩, hentry, rfl⟩ := List.mem_map.mp h
      have hlt : sizeOf (key, found) < sizeOf entries := List.sizeOf_lt_of_mem hentry
      simp only [Prod.mk.sizeOf_spec] at hlt
      simp only [map.sizeOf_spec]
      omega
  | _ => cases h

/-- What holds of a value if it holds of all values inside it holds of every value. -/
@[elab_as_elim]
theorem inside_induction {motive : Document → Prop}
    (step : ∀ d : Document, (∀ value ∈ d.inside, motive value) → motive d) (d : Document) : motive d :=
  step d fun value _ => inside_induction step value
termination_by sizeOf d
decreasing_by
  rename_i h
  exact sizeOf_lt_of_mem_inside h

/-! ## Changes of texts -/

mutual

/-- Change the texts of a value, however deep in lists and mappings they stand.  The keys of mappings stay. -/
def mapTexts (f : Text → Text) : Document → Document
  | .text t => .text (f t)
  | .list items => .list (mapTextsItems f items)
  | .map entries => .map (mapTextsEntries f entries)
  | other => other

/-- Change the texts of the items of a list. -/
def mapTextsItems (f : Text → Text) : List Document → List Document
  | [] => []
  | item :: rest => mapTexts f item :: mapTextsItems f rest

/-- Change the texts of the values of a mapping. -/
def mapTextsEntries (f : Text → Text) : List (Document × Document) → List (Document × Document)
  | [] => []
  | (key, value) :: rest => (key, mapTexts f value) :: mapTextsEntries f rest

end

theorem mapTextsItems_eq (items : List Document) : mapTextsItems f items = items.map (mapTexts f) := by
  induction items with
  | nil => rfl
  | cons item rest ih => rw [mapTextsItems, ih, List.map_cons]

theorem mapTextsEntries_eq (entries : List (Document × Document)) :
    mapTextsEntries f entries = entries.map fun entry => (entry.1, mapTexts f entry.2) := by
  induction entries with
  | nil => rfl
  | cons entry rest ih => rw [mapTextsEntries, ih, List.map_cons]

theorem mapTexts_list (items : List Document) : mapTexts f (.list items) = .list (items.map (mapTexts f)) := by
  rw [mapTexts, mapTextsItems_eq]

theorem mapTexts_map (entries : List (Document × Document)) :
    mapTexts f (.map entries) = .map (entries.map fun entry => (entry.1, mapTexts f entry.2)) := by
  rw [mapTexts, mapTextsEntries_eq]

/-- A value without its texts: what values of one shape have in common, the keys of their mappings, the lengths of
their lists, and all that is no text. -/
def outline (d : Document) : Document :=
  mapTexts (fun _ => "") d

theorem inside_mapTexts (f : Text → Text) (d : Document) : (mapTexts f d).inside = d.inside.map (mapTexts f) := by
  cases d with
  | list items => rw [mapTexts_list, inside, inside]
  | map entries => simp [mapTexts_map, inside]
  | _ => simp [mapTexts, inside]

/-- A change of all texts changes each of them where it stands. -/
theorem place?_mapTexts (f : Text → Text) (path : List Nat) (d : Document) :
    place? path (mapTexts f d) = (place? path d).map (mapTexts f) := by
  induction path generalizing d with
  | nil => rfl
  | cons n path ih =>
      rw [place?_cons, place?_cons, inside_mapTexts, List.getElem?_map]
      cases d.inside[n]? with
      | none => rfl
      | some inner => exact ih inner

/-- What a change does to the texts of a value is all that it does to the value. -/
theorem mapTexts_congr (h : ∀ path t, place? path d = some (.text t) → f t = g t) :
    mapTexts f d = mapTexts g d := by
  induction d using inside_induction with
  | step d ih =>
      have hinside : ∀ value ∈ d.inside, mapTexts f value = mapTexts g value := by
        intro value hvalue
        refine ih value hvalue fun path t ht => ?_
        obtain ⟨n, hn⟩ := List.mem_iff_getElem?.mp hvalue
        exact h (n :: path) t (place?_cons_eq_some_iff.mpr ⟨value, hn, ht⟩)
      cases d with
      | text t => rw [mapTexts, mapTexts, h [] t rfl]
      | list items =>
          rw [mapTexts_list, mapTexts_list]
          exact congrArg Document.list (List.map_congr_left hinside)
      | map entries =>
          rw [mapTexts_map, mapTexts_map]
          refine congrArg Document.map (List.map_congr_left fun entry hentry => ?_)
          rw [hinside entry.2 (List.mem_map_of_mem hentry)]
      | _ => rfl

theorem mapTexts_id (d : Document) : mapTexts id d = d := by
  induction d using inside_induction with
  | step d ih =>
      cases d with
      | list items =>
          have hitems : items.map (mapTexts id) = items.map id := List.map_congr_left ih
          rw [mapTexts_list, hitems, List.map_id]
      | map entries =>
          have hentries : (entries.map fun entry => (entry.1, mapTexts id entry.2)) = entries.map id :=
            List.map_congr_left fun entry hentry => Prod.ext rfl (ih entry.2 (List.mem_map_of_mem hentry))
          rw [mapTexts_map, hentries, List.map_id]
      | _ => rfl

/-- A value whose texts are all kept is kept. -/
theorem mapTexts_eq_self (h : ∀ path t, place? path d = some (.text t) → f t = t) : mapTexts f d = d := by
  have hsame : mapTexts f d = mapTexts id d := mapTexts_congr h
  rw [hsame, mapTexts_id]

end Places

end Conformance.Document
