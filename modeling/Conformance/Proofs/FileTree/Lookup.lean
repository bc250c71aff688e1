import Conformance.FileTree.Basic

/-!
# Looking up what lies below a directory

What lies below an entry is told by the tree itself; what is found at a path is told by following its names.
In a tree whose names can be told apart and looked up, both are the same.

Main results:

- `Path.refusal?_below`: a name can be looked up below a directory that can be.
- `FileTree.follow_append`: names behind a path are followed from where the path leads.
- `FileTree.Entry.Reaches.follow_eq`: what lies below an entry is found there.
-/

namespace Conformance

open Text

/-! ## Texts of paths -/

namespace Text

theorem findUnencodable_eq_none_iff {allowed : CodePoint → Bool} {points : List CodePoint} {place : Nat} :
    findUnencodable allowed place points = none ↔ ∀ c ∈ points, (!c.isHalf || allowed c) = true := by
  induction points generalizing place with
  | nil => simp [findUnencodable]
  | cons c rest ih =>
      rw [findUnencodable, List.forall_mem_cons]
      by_cases hc : (!c.isHalf || allowed c) = true
      · rw [if_pos hc, ih]
        exact (and_iff_right hc).symm
      · rw [if_neg hc]
        exact iff_of_false (Option.some_ne_none _) (fun h => hc h.1)

theorem lt_irrefl (text : Text) : ¬text < text :=
  have : Std.Irrefl (α := CodePoint) (· < ·) := ⟨fun c => Nat.lt_irrefl c.toNat⟩
  List.lt_irrefl text.toList

theorem hasNull_append (a b : Text) : (a ++ b).hasNull = (a.hasNull || b.hasNull) := by
  simp [hasNull]

theorem nameFault?_append_eq_none_iff {a b : Text} :
    nameFault? (a ++ b) = none ↔ nameFault? a = none ∧ nameFault? b = none := by
  unfold nameFault?
  simp only [findUnencodable_eq_none_iff, toList_append, List.forall_mem_append]

end Text

theorem textRefusal?_eq_none_iff {text : Text} :
    textRefusal? text = none ↔ nameFault? text = none ∧ hasNull text = false := by
  unfold textRefusal?
  cases nameFault? text with
  | some fault => simp
  | none => simp

/-- Two texts can be handed to the system together if each of them can. -/
theorem textRefusal?_append {a b : Text} (ha : textRefusal? a = none) (hb : textRefusal? b = none) :
    textRefusal? (a ++ b) = none := by
  obtain ⟨hfaultA, hnullA⟩ := textRefusal?_eq_none_iff.mp ha
  obtain ⟨hfaultB, hnullB⟩ := textRefusal?_eq_none_iff.mp hb
  refine textRefusal?_eq_none_iff.mpr ⟨nameFault?_append_eq_none_iff.mpr ⟨hfaultA, hfaultB⟩, ?_⟩
  rw [hasNull_append, hnullA, hnullB]
  rfl

namespace Path

/-- What lies under names, one below another, from the directory at a path. -/
def descend (path : Path) (names : List Text) : Path :=
  { path with names := path.names ++ names }

theorem descend_nil (path : Path) : path.descend [] = path := by
  simp [descend]

theorem below_descend (path : Path) (name : Text) (names : List Text) :
    (path.below name).descend names = path.descend (name :: names) := by
  simp [descend, below]

/-- How the text of a path goes on in front of a name. -/
def lead (path : Path) : Text :=
  if path.names = [] then path.root.text else path.toText ++ "/"

theorem toText_of_ne_nil {root : Root} {names : List Text} (h : names ≠ []) :
    toText ⟨root, names⟩ = root.text ++ Text.intercalate "/" names := by
  unfold toText
  cases names with
  | nil => exact absurd rfl h
  | cons name rest => cases root <;> rfl

theorem toText_below (path : Path) (name : Text) : (path.below name).toText = path.lead ++ name := by
  have hbelow : (path.below name).toText =
      path.root.text ++ Text.intercalate "/" (path.names ++ [name]) :=
    toText_of_ne_nil (List.append_ne_nil_of_right_ne_nil _ (List.cons_ne_nil name []))
  rw [hbelow]
  unfold lead
  by_cases hnames : path.names = []
  · rw [if_pos hnames, hnames, List.nil_append, Text.intercalate_singleton]
  · rw [if_neg hnames, Text.intercalate_concat hnames]
    have hpath : path.toText = path.root.text ++ Text.intercalate "/" path.names := toText_of_ne_nil hnames
    rw [hpath, Text.append_assoc, Text.append_assoc]

theorem textRefusal?_lead {path : Path} (h : path.refusal? = none) : textRefusal? path.lead = none := by
  unfold lead
  by_cases hnames : path.names = []
  · rw [if_pos hnames]
    cases path.root <;> decide
  · rw [if_neg hnames]
    exact textRefusal?_append h (by decide)

/-- A name can be looked up below a directory that can be. -/
theorem refusal?_below {path : Path} {name : Text} (h : path.refusal? = none)
    (hname : textRefusal? name = none) : (path.below name).refusal? = none := by
  unfold refusal?
  rw [toText_below]
  exact textRefusal?_append (textRefusal?_lead h) hname

theorem refusal?_descend {path : Path} {names : List Text} (h : path.refusal? = none)
    (hnames : ∀ name ∈ names, textRefusal? name = none) : (path.descend names).refusal? = none := by
  induction names generalizing path with
  | nil => rwa [descend_nil]
  | cons name rest ih =>
      rw [← below_descend]
      exact ih (refusal?_below h (hnames name List.mem_cons_self))
        fun other hother => hnames other (List.mem_cons_of_mem name hother)

end Path

/-! ## Names -/

namespace FileTree

/-- A name that an entry can have, as it is read from a directory. -/
structure IsFileName (name : Text) : Prop where
  not_up : name ≠ ".."
  short : nameSize name ≤ nameLimit
  accepted : textRefusal? name = none
  asRead : asName name = name

/-- A tree of directories and files, as one can be made: the entries of a directory have names that can be told
apart, and they are in the order of their names.  There are no links in it. -/
inductive Entry.Tidy : Entry → Prop
  | file (content : ByteArray) (reported : Nat) : Tidy (.file content reported)
  | sink : Tidy .sink
  | directory {entries : List (Text × Entry)} (names : ∀ entry ∈ entries, IsFileName entry.1)
      (ordered : entries.Pairwise fun a b => a.1 < b.1) (below : ∀ entry ∈ entries, Tidy entry.2) :
      Tidy (.directory entries)

/-- What lies under names, one below another, from an entry. -/
inductive Entry.Reaches : Entry → List Text → Entry → Prop
  | here (entry : Entry) : Reaches entry [] entry
  | inside {entries : List (Text × Entry)} {name : Text} {names : List Text} {entry last : Entry} :
      (name, entry) ∈ entries → Reaches entry names last → Reaches (.directory entries) (name :: names) last

@[simp]
theorem Entry.reaches_file_iff {content : ByteArray} {reported : Nat} {names : List Text} {last : Entry} :
    (Entry.file content reported).Reaches names last ↔ names = [] ∧ last = .file content reported := by
  constructor
  · intro h
    cases h
    exact ⟨rfl, rfl⟩
  · rintro ⟨rfl, rfl⟩
    exact .here _

/-- Below a directory lies itself, and what lies below its entries. -/
@[simp]
theorem Entry.reaches_directory_iff {entries : List (Text × Entry)} {names : List Text} {last : Entry} :
    (Entry.directory entries).Reaches names last ↔
      names = [] ∧ last = .directory entries ∨
        ∃ name entry rest, (name, entry) ∈ entries ∧ entry.Reaches rest last ∧ names = name :: rest := by
  constructor
  · intro h
    cases h with
    | here => exact .inl ⟨rfl, rfl⟩
    | inside hmem hinner => exact .inr ⟨_, _, _, hmem, hinner, rfl⟩
  · rintro (⟨rfl, rfl⟩ | ⟨name, entry, rest, hmem, hinner, rfl⟩)
    · exact .here _
    · exact .inside hmem hinner

namespace Entry.Tidy

variable {entries : List (Text × Entry)} {entry : Entry} {name : Text}

theorem lookup_eq_some (h : (Entry.directory entries).Tidy) (hmem : (name, entry) ∈ entries) :
    entries.lookup name = some entry := by
  cases h with
  | directory _ hordered _ =>
      obtain ⟨before, behind, rfl⟩ := List.append_of_mem hmem
      refine List.lookup_eq_some_iff.mpr ⟨before, behind, rfl, fun other hother => ?_⟩
      have hless : other.1 < name :=
        (List.pairwise_append.mp hordered).2.2 other hother (name, entry) List.mem_cons_self
      have hne : name ≠ other.1 := by
        rintro rfl
        exact Text.lt_irrefl _ hless
      exact bne_iff_ne.mpr hne

theorem isFileName_of_reaches {last : Entry} {names : List Text} (h : entry.Tidy)
    (hreaches : entry.Reaches names last) : ∀ name ∈ names, IsFileName name := by
  induction hreaches with
  | here => exact fun _ hname => nomatch hname
  | inside hmem _ ih =>
      cases h with
      | directory hnames _ hbelow => exact List.forall_mem_cons.mpr ⟨hnames _ hmem, ih (hbelow _ hmem)⟩

end Entry.Tidy

/-! ## Following names -/

theorem follow_nil (above : List Entry) (entry : Entry) : follow above entry [] = .ok entry := by
  unfold follow
  rfl

theorem follow_directory (above : List Entry) (entries : List (Text × Entry)) (name : Text)
    (rest : List Text) :
    follow above (.directory entries) (name :: rest) =
      if name = ".." then follow above.tail (above.headD (.directory entries)) rest
      else if nameLimit < nameSize name then .error .nameTooLong
      else
        match entries.lookup name with
        | some entry => follow (.directory entries :: above) entry rest
        | none => .error .notFound := by
  cases above <;> rfl

theorem follow_up (above : List Entry) (entries : List (Text × Entry)) (rest : List Text) :
    follow above (.directory entries) (".." :: rest) =
      follow above.tail (above.headD (.directory entries)) rest := by
  rw [follow_directory, if_pos rfl]

theorem follow_name {above : List Entry} {entries : List (Text × Entry)} {name : Text} {entry : Entry}
    (rest : List Text) (hup : name ≠ "..") (hshort : ¬nameLimit < nameSize name)
    (hentry : entries.lookup name = some entry) :
    follow above (.directory entries) (name :: rest) = follow (.directory entries :: above) entry rest := by
  rw [follow_directory, if_neg hup, if_neg hshort, hentry]

/-- A path leads on behind a name only if it goes up, or the name is that of an entry. -/
theorem follow_cases {above : List Entry} {entries : List (Text × Entry)} {name : Text} {rest : List Text}
    {last : Entry} (h : follow above (.directory entries) (name :: rest) = .ok last) :
    name = ".." ∨ name ≠ ".." ∧ ¬nameLimit < nameSize name ∧ ∃ entry, entries.lookup name = some entry := by
  rw [follow_directory] at h
  by_cases hup : name = ".."
  · exact .inl hup
  · by_cases hlong : nameLimit < nameSize name
    · rw [if_neg hup, if_pos hlong] at h
      cases h
    · rw [if_neg hup, if_neg hlong] at h
      cases hentry : entries.lookup name with
      | some entry => exact .inr ⟨hup, hlong, entry, rfl⟩
      | none =>
          rw [hentry] at h
          cases h

/-- Names behind a path are followed from where the path leads. -/
theorem follow_append {above : List Entry} {entry last : Entry} {names : List Text}
    (h : follow above entry names = .ok last) :
    ∃ above', ∀ more, follow above entry (names ++ more) = follow above' last more := by
  induction names generalizing above entry with
  | nil =>
      rw [follow_nil] at h
      cases h
      exact ⟨above, fun _ => rfl⟩
  | cons name rest ih =>
      cases entry with
      | file content reported => cases h
      | sink => cases h
      | link target => cases h
      | directory entries =>
          obtain rfl | ⟨hup, hshort, entry, hentry⟩ := follow_cases h
          · rw [follow_up] at h
            obtain ⟨above', habove'⟩ := ih h
            exact ⟨above', fun more => by rw [List.cons_append, follow_up, habove']⟩
          · rw [follow_name rest hup hshort hentry] at h
            obtain ⟨above', habove'⟩ := ih h
            exact ⟨above', fun more => by rw [List.cons_append, follow_name _ hup hshort hentry, habove']⟩

/-- What lies below an entry is found there. -/
theorem Entry.Reaches.follow_eq {entry last : Entry} {names : List Text} (h : entry.Reaches names last)
    (htidy : entry.Tidy) (above : List Entry) : follow above entry names = .ok last := by
  induction h generalizing above with
  | here entry => exact follow_nil above entry
  | inside hmem _ ih =>
      have hlookup := htidy.lookup_eq_some hmem
      cases htidy with
      | directory hnames _ hbelow =>
          have hname := hnames _ hmem
          rw [follow_name _ hname.not_up (Nat.not_lt.mpr hname.short) hlookup]
          exact ih (hbelow _ hmem) _

theorem Entry.Tidy.of_lookup {entries : List (Text × Entry)} {name : Text} {entry : Entry}
    (h : (Entry.directory entries).Tidy) (hlookup : entries.lookup name = some entry) : entry.Tidy := by
  cases h with
  | directory _ _ hbelow =>
      obtain ⟨before, behind, rfl, -⟩ := List.lookup_eq_some_iff.mp hlookup
      exact hbelow (name, entry) (List.mem_append_right before List.mem_cons_self)

/-- What is found from a tidy entry, with tidy directories above it, is tidy. -/
theorem tidy_of_follow {above : List Entry} {entry last : Entry} {names : List Text}
    (habove : ∀ up ∈ above, up.Tidy) (hentry : entry.Tidy) (h : follow above entry names = .ok last) :
    last.Tidy := by
  induction names generalizing above entry with
  | nil =>
      rw [follow_nil] at h
      cases h
      exact hentry
  | cons name rest ih =>
      cases hentry with
      | file content reported => cases h
      | sink => cases h
      | @directory entries hnames hordered hbelow =>
          have htidy : (Entry.directory entries).Tidy := .directory hnames hordered hbelow
          obtain rfl | ⟨hup, hshort, entry, hlookup⟩ := follow_cases h
          · rw [follow_up] at h
            cases above with
            | nil => exact ih habove htidy h
            | cons up more =>
                obtain ⟨hup, hmore⟩ := List.forall_mem_cons.mp habove
                exact ih hmore hup h
          · rw [follow_name rest hup hshort hlookup] at h
            exact ih (List.forall_mem_cons.mpr ⟨htidy, habove⟩) (htidy.of_lookup hlookup) h

/-! ## Finding -/

variable {tree : FileTree} {path : Path} {entry last : Entry} {names : List Text}

theorem find_eq_follow (h : tree.find path = .ok entry) :
    follow [] tree.top (tree.absoluteNames path) = .ok entry := by
  unfold find at h
  split at h
  · cases h
  · exact h

theorem absoluteNames_descend (hnames : ∀ name ∈ names, asName name = name) :
    tree.absoluteNames (path.descend names) = tree.absoluteNames path ++ names := by
  have hmap : names.map asName = names := (List.map_congr_left hnames).trans (List.map_id names)
  have hread : (path.descend names).asRead.names = path.asRead.names ++ names := by
    simp only [Path.asRead, Path.descend, List.map_append, hmap]
  unfold absoluteNames
  rw [hread]
  by_cases habsolute : path.isAbsolute = true
  · rw [if_pos habsolute, if_pos (show (path.descend names).isAbsolute = true from habsolute)]
  · rw [if_neg habsolute, if_neg (show ¬(path.descend names).isAbsolute = true from habsolute),
      List.append_assoc]

/-- What is found in a tidy tree is tidy. -/
theorem tidy_of_find (htree : tree.top.Tidy) (h : tree.find path = .ok entry) : entry.Tidy :=
  tidy_of_follow (List.forall_mem_nil _) htree (find_eq_follow h)

/-- What lies below a directory that is found is found below its path, if this is not too long. -/
theorem find_descend (htree : tree.top.Tidy) (h : tree.find path = .ok entry)
    (hreaches : entry.Reaches names last) (hshort : nameSize (path.descend names).toText ≤ pathLimit) :
    tree.find (path.descend names) = .ok last := by
  have htidy := tidy_of_find htree h
  have hnames := htidy.isFileName_of_reaches hreaches
  obtain ⟨above, habove⟩ := follow_append (find_eq_follow h)
  unfold find
  rw [if_neg (Nat.not_lt.mpr hshort), absoluteNames_descend fun name hname => (hnames name hname).asRead,
    habove]
  exact hreaches.follow_eq htidy above

end FileTree

end Conformance
