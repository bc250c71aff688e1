import Conformance.Proofs.Document.Token

/-!
# Reading what was written

A document is written as JSON and read again.  Texts, integers and truth values stay what they are, a double is read
as a double, and lists and mappings keep their parts.  A key that stands twice in a mapping keeps its place and takes
the last value.

Main results:

- `Json.exists_reads`: a document of texts that can be written is read back, in a layout that keeps all characters.
- `Json.exists_read?_render`: the text of such a document is read as a document.
-/

namespace Conformance

/-! ## Documents read back -/

namespace Document

/-- The mapping of entries that are read one after another. -/
def gather (entries : List (Text × Document)) : Document :=
  .map (entries.foldl (fun done entry => put entry.1 entry.2 done) [])

/-- A document is read back as another one. -/
inductive ReadBack : Document → Document → Prop
  | null : ReadBack .null .null
  | bool (value : Bool) : ReadBack (.bool value) (.bool value)
  | int (value : Int) : ReadBack (.int value) (.int value)
  | float (written read : Float) : ReadBack (.float written) (.float read)
  | text (value : Text) : ReadBack (.text value) (.text value)
  | list {written read : List Document} : List.Forall₂ ReadBack written read → ReadBack (.list written) (.list read)
  | map {written : List (Document × Document)} {read : List (Text × Document)} :
      written.map (·.1) = read.map (fun field => .text field.1) →
      List.Forall₂ ReadBack (written.map (·.2)) (read.map (·.2)) → ReadBack (.map written) (gather read)

end Document

namespace Json

open Decimal Text Document

variable {layout : Layout} {chars tail rest : List Char} {d : Document} {fuel depth : Nat}

/-! ## Blanks -/

/-- There are only blanks among some characters. -/
def Blank (blanks : List Char) : Prop :=
  ∀ c ∈ blanks, c = ' ' ∨ c = '\n'

theorem blank_nil : Blank [] :=
  nofun

theorem blank_space : Blank [' '] :=
  List.forall_mem_singleton.mpr (.inl rfl)

theorem skipBlanks_append {blanks : List Char} (h : Blank blanks) (input : List Char) :
    skipBlanks (blanks ++ input) = skipBlanks input := by
  induction blanks with
  | nil => rfl
  | cons c blanks ih =>
      obtain ⟨hc, hblanks⟩ := List.forall_mem_cons.mp h
      have hskip : skipBlanks (c :: (blanks ++ input)) = skipBlanks (blanks ++ input) := by
        unfold skipBlanks
        rcases hc with rfl | rfl <;> rfl
      rw [List.cons_append, hskip, ih hblanks]

theorem adds_newline (layout : Layout) (depth : Nat) : ∃ blanks, Blank blanks ∧ Adds (layout.newline depth) blanks := by
  unfold Layout.newline
  cases layout.indent with
  | none => exact ⟨[], nofun, .nil⟩
  | some width =>
      refine ⟨'\n' :: List.replicate (width * depth) ' ', ?_, ?_⟩
      · refine List.forall_mem_cons.mpr ⟨.inr rfl, ?_⟩
        intro c hc
        exact .inl (List.eq_of_mem_replicate hc)
      · intro out
        simp

theorem adds_separate (layout : Layout) (depth : Nat) :
    ∃ blanks, Blank blanks ∧ Adds (layout.separate depth) (',' :: blanks) := by
  unfold Layout.separate
  cases layout.indent with
  | none => exact ⟨[' '], blank_space, fun _ => rfl⟩
  | some width =>
      obtain ⟨blanks, hblank, hadds⟩ := adds_newline layout depth
      exact ⟨blanks, hblank, hadds.comp (adds_cons ',')⟩

/-! ## Values -/

/-- Characters are read as a document, whatever stands behind them that could not belong to a number. -/
structure Reads (chars : List Char) (d : Document) : Prop where
  begins : ∃ c tail, chars = c :: tail ∧ (∀ more, skipBlanks (c :: more) = c :: more) ∧ c ≠ ']'
  read : ∀ fuel rest, chars.length < fuel → Stops rest → readValue fuel (chars ++ rest) = some (d, rest)

theorem readValue_succ (fuel : Nat) {input other : List Char} (h : skipBlanks input = skipBlanks other) :
    readValue (fuel + 1) input = readValue (fuel + 1) other := by
  rw [readValue, readValue, h]

/-- Blanks in front of a value do not matter. -/
theorem Reads.read_blank {blanks : List Char} (h : Reads chars d) (hblank : Blank blanks) (hfuel : chars.length < fuel)
    (hrest : Stops rest) : readValue fuel (blanks ++ (chars ++ rest)) = some (d, rest) := by
  rw [← h.read fuel rest hfuel hrest]
  cases fuel with
  | zero => omega
  | succ fuel => exact readValue_succ fuel (skipBlanks_append hblank _)

theorem stops_cons {c : Char} (h : isNumberChar c = false) (tail : List Char) : Stops (c :: tail) := by
  intro d more heq
  rw [← (List.cons.inj heq).1]
  exact h

/-- A word that is read at once. -/
theorem reads_word {word : String} 
    (hbegins : ∃ c tail, word.toList = c :: tail ∧ (∀ more, skipBlanks (c :: more) = c :: more) ∧ c ≠ ']')
    (hread : ∀ fuel rest, readValue (fuel + 1) (word.toList ++ rest) = some (d, rest)) : Reads word.toList d := by
  refine ⟨hbegins, fun fuel rest hfuel _ => ?_⟩
  cases fuel with
  | zero => omega
  | succ fuel => exact hread fuel rest

theorem reads_null : Reads "null".toList .null :=
  reads_word ⟨_, _, rfl, fun _ => rfl, by decide⟩ fun _ _ => rfl

theorem reads_true : Reads "true".toList (.bool true) :=
  reads_word ⟨_, _, rfl, fun _ => rfl, by decide⟩ fun _ _ => rfl

theorem reads_false : Reads "false".toList (.bool false) :=
  reads_word ⟨_, _, rfl, fun _ => rfl, by decide⟩ fun _ _ => rfl

theorem reads_notANumber : Reads "NaN".toList (.float notANumber) :=
  reads_word ⟨_, _, rfl, fun _ => rfl, by decide⟩ fun _ _ => rfl

theorem reads_infinity : Reads "Infinity".toList (.float (infinity false)) :=
  reads_word ⟨_, _, rfl, fun _ => rfl, by decide⟩ fun _ _ => rfl

theorem reads_negative_infinity : Reads "-Infinity".toList (.float (infinity true)) :=
  reads_word ⟨_, _, rfl, fun _ => rfl, by decide⟩ fun _ _ => rfl

theorem reads_text {value : Text} (h : value.Writable) :
    ∃ chars : List Char, Adds (writeText false value) chars ∧ Reads chars (.text value) := by
  obtain ⟨chars, hadds, hread⟩ := readText?_writeText h
  refine ⟨_, hadds, ⟨'"', _, rfl, fun _ => rfl, by decide⟩, fun fuel rest hfuel _ => ?_⟩
  cases fuel with
  | zero => omega
  | succ fuel =>
      have hskip : skipBlanks ('"' :: chars ++ ['"'] ++ rest) = '"' :: (chars ++ '"' :: rest) := by
        simp [skipBlanks]
      rw [readValue, hskip]
      simp only [hread, Option.map_some]

/-- A digit is none of the characters that other values begin with. -/
theorem ne_of_isDigit {c other : Char} (h : c.isDigit = true) (hother : other.isDigit = false) : c ≠ other := by
  rintro rfl
  rw [h] at hother
  cases hother

theorem skipBlanks_digit {c : Char} (h : c.isDigit = true) (more : List Char) : skipBlanks (c :: more) = c :: more := by
  have hc {other : Char} (hother : other.isDigit = false) : (c == other) = false :=
    beq_false_of_ne (ne_of_isDigit h hother)
  simp [skipBlanks, hc]

/-- What begins with a digit, or with a minus and a digit, is read as a number. -/
theorem readValue_digit {c : Char} (h : c.isDigit = true) {input : List Char}
    (hinput : input = c :: tail ∨ input = '-' :: c :: tail) (fuel : Nat) :
    readValue (fuel + 1) input = readNumber? input := by
  have hskip : skipBlanks input = input := by
    rcases hinput with rfl | rfl
    · exact skipBlanks_digit h tail
    · rfl
  rw [readValue, hskip]
  have hne {other : Char} {more : List Char} (hdigit : other.isDigit = false) (hminus : other ≠ '-') :
      input ≠ other :: more := by
    intro heq
    rcases hinput with rfl | rfl
    · exact ne_of_isDigit h hdigit (List.cons.inj heq).1
    · exact hminus (List.cons.inj heq).1.symm
  have hinfinity : after? "Infinity" input = none := by
    have hprefix : ¬"Infinity".toList <+: input := by
      rintro ⟨behind, rfl⟩
      exact hne (by decide) (by decide) rfl
    exact if_neg (by simpa using hprefix)
  have hnegative : after? "-Infinity" input = none := by
    have hprefix : ¬"-Infinity".toList <+: input := by
      rintro ⟨behind, rfl⟩
      rcases hinput with heq | heq
      · cases heq
        exact absurd h (by decide)
      · cases heq
        exact absurd h (by decide)
    exact if_neg (by simpa using hprefix)
  split
  case h_8 => rw [hinfinity, hnegative]
  all_goals exact absurd rfl (hne (by decide) (by decide))

/-- A word that is read as a number is read as a value. -/
theorem reads_number (h : IsNumber chars)
    (hread : ∀ rest, Stops rest → readNumber? (chars ++ rest) = some (d, rest)) : Reads chars d := by
  obtain ⟨c, tail, hchars, hc⟩ := h.digit
  refine ⟨?_, fun fuel rest hfuel hrest => ?_⟩
  · rcases hchars with rfl | rfl
    · exact ⟨c, tail, rfl, skipBlanks_digit hc, ne_of_isDigit hc rfl⟩
    · exact ⟨'-', c :: tail, rfl, fun _ => rfl, by decide⟩
  · cases fuel with
    | zero => omega
    | succ fuel =>
        have hinput : chars ++ rest = c :: (tail ++ rest) ∨ chars ++ rest = '-' :: c :: (tail ++ rest) := by
          rcases hchars with rfl | rfl
          · exact .inl rfl
          · exact .inr rfl
        rw [readValue_digit hc hinput fuel, hread rest hrest]

theorem reads_int (value : Int) : Reads (toString value).toList (.int value) :=
  reads_number (readNumber?_int value).1 (readNumber?_int value).2

/-- A double is read as a double. -/
theorem exists_reads_float (x : Float) : ∃ y, Reads (numberText x).toList (.float y) := by
  unfold numberText
  cases hparts : Parts.ofFloat x with
  | nan => exact ⟨_, reads_notANumber⟩
  | infinite negative =>
      cases negative with
      | true => exact ⟨_, reads_negative_infinity⟩
      | false => exact ⟨_, reads_infinity⟩
  | finite negative m q =>
      obtain ⟨hnumber, y, hread⟩ := exists_readNumber?_float hparts
      exact ⟨y, reads_number hnumber hread⟩

/-! ## Lists -/

/-- How the reading of a list goes on behind an item. -/
def afterItem (fuel : Nat) (input : List Char) (done : List Document) : Option (Document × List Char) :=
  match skipBlanks input with
  | ',' :: rest => readItems fuel rest done
  | ']' :: rest => some (.list done.reverse, rest)
  | _ => none

theorem readItems_succ (fuel : Nat) (input : List Char) (done : List Document) {item : Document}
    (h : readValue fuel input = some (item, rest)) :
    readItems (fuel + 1) input done = afterItem fuel rest (item :: done) := by
  rw [readItems, h]
  rfl

/-- Characters are read as the rest of a list. -/
structure ReadsItems (chars : List Char) (items : List Document) : Prop where
  stops : ∀ rest, Stops (chars ++ rest)
  positive : 0 < chars.length
  read : ∀ fuel rest done, chars.length < fuel →
    afterItem fuel (chars ++ rest) done = some (.list (done.reverse ++ items), rest)

/-- Neither a blank nor the end of a collection belongs to a number. -/
theorem stops_blank {blanks : List Char} (h : Blank blanks) {c : Char} (hc : isNumberChar c = false) (rest : List Char) :
    Stops (blanks ++ [c] ++ rest) := by
  cases blanks with
  | nil => exact stops_cons hc rest
  | cons blank blanks =>
      refine stops_cons ?_ _
      rcases h blank List.mem_cons_self with rfl | rfl <;> rfl

theorem readsItems_nil {blanks : List Char} (h : Blank blanks) : ReadsItems (blanks ++ [']']) [] := by
  refine ⟨stops_blank h rfl, by simp, fun fuel rest done _ => ?_⟩
  unfold afterItem
  rw [List.append_assoc, skipBlanks_append h]
  simp [skipBlanks]

theorem ReadsItems.cons {blanks : List Char} {items : List Document} (hblank : Blank blanks) (hchars : Reads chars d)
    (htail : ReadsItems tail items) : ReadsItems (',' :: blanks ++ chars ++ tail) (d :: items) := by
  refine ⟨fun rest => stops_cons rfl _, by simp, fun fuel rest done hfuel => ?_⟩
  simp only [List.length_cons, List.length_append] at hfuel
  cases fuel with
  | zero => omega
  | succ fuel =>
      have hvalue : readValue fuel (blanks ++ (chars ++ (tail ++ rest))) = some (d, tail ++ rest) :=
        hchars.read_blank hblank (by omega) (htail.stops rest)
      have hnext := htail.read fuel rest (d :: done) (by omega)
      have hafter : afterItem (fuel + 1) (',' :: blanks ++ chars ++ tail ++ rest) done =
          readItems (fuel + 1) (blanks ++ (chars ++ (tail ++ rest))) done := by
        simp [afterItem, skipBlanks]
      rw [hafter, readItems_succ fuel _ done hvalue, hnext]
      simp

/-- A list with items is read from its first item on. -/
theorem ReadsItems.reads {blanks : List Char} {items : List Document} (hblank : Blank blanks) (hchars : Reads chars d)
    (htail : ReadsItems tail items) : Reads ('[' :: blanks ++ chars ++ tail) (.list (d :: items)) := by
  refine ⟨⟨'[', _, rfl, fun _ => rfl, by decide⟩, fun fuel rest hfuel _ => ?_⟩
  obtain ⟨c, more, rfl, hskip, hc⟩ := hchars.begins
  have hpositive := htail.positive
  simp only [List.length_cons, List.length_append] at hfuel
  match fuel with
  | 0 => omega
  | 1 => omega
  | fuel + 2 =>
      have hvalue : readValue fuel (c :: more ++ (tail ++ rest)) = some (d, tail ++ rest) :=
        hchars.read fuel _ (by simp only [List.length_cons]; omega) (htail.stops rest)
      have hnext := htail.read fuel rest [d] (by omega)
      have hinput : skipBlanks ('[' :: blanks ++ c :: more ++ tail ++ rest) =
          '[' :: (blanks ++ (c :: more ++ (tail ++ rest))) := by
        simp [skipBlanks]
      have hitems : skipBlanks (blanks ++ (c :: more ++ (tail ++ rest))) = c :: more ++ (tail ++ rest) := by
        rw [skipBlanks_append hblank]
        exact hskip _
      rw [readValue, hinput]
      simp only [hitems]
      split
      · rename_i heq
        exact absurd (List.cons.inj heq).1 hc
      · rw [readItems_succ fuel _ [] hvalue, hnext]
        rfl

theorem reads_nil : Reads ['[', ']'] (.list []) := by
  refine ⟨⟨'[', _, rfl, fun _ => rfl, by decide⟩, fun fuel rest hfuel _ => ?_⟩
  cases fuel with
  | zero => omega
  | succ fuel => rfl

/-! ## Mappings -/

/-- How the reading of a mapping goes on behind an entry. -/
def afterEntry (fuel : Nat) (input : List Char) (done : List (Document × Document)) :
    Option (Document × List Char) :=
  match skipBlanks input with
  | ',' :: rest => readEntries fuel rest done
  | '\x7d' :: rest => some (.map done, rest)
  | _ => none

/-- Characters are read as the name of a key. -/
def Names (key : List Char) (name : Text) : Prop :=
  ∃ letters, key = '"' :: letters ++ ['"'] ∧ ∀ rest, readText? (letters ++ '"' :: rest) = some (name, rest)

variable {key blanks : List Char} {name : Text} {fields : List (Text × Document)}

theorem readEntries_succ (hkey : Names key name) (hblank : Blank blanks) {input : List Char}
    (hvalue : readValue fuel (' ' :: input) = some (d, rest)) (done : List (Document × Document)) :
    readEntries (fuel + 1) (blanks ++ (key ++ ':' :: ' ' :: input)) done = afterEntry fuel rest (put name d done) := by
  obtain ⟨letters, rfl, hread⟩ := hkey
  have hskip : skipBlanks (blanks ++ ('"' :: letters ++ ['"'] ++ ':' :: ' ' :: input)) =
      '"' :: (letters ++ '"' :: ':' :: ' ' :: input) := by
    rw [skipBlanks_append hblank]
    simp [skipBlanks]
  have hcolon : skipBlanks (':' :: ' ' :: input) = ':' :: ' ' :: input := rfl
  rw [readEntries, hskip]
  simp only [hread, hcolon, hvalue]
  rfl

/-- Characters are read as the rest of a mapping. -/
structure ReadsEntries (chars : List Char) (fields : List (Text × Document)) : Prop where
  stops : ∀ rest, Stops (chars ++ rest)
  positive : 0 < chars.length
  read : ∀ fuel rest done, chars.length < fuel →
    afterEntry fuel (chars ++ rest) done =
      some (.map (fields.foldl (fun done field => put field.1 field.2 done) done), rest)

theorem readsEntries_nil (h : Blank blanks) : ReadsEntries (blanks ++ ['\x7d']) [] := by
  refine ⟨stops_blank h rfl, by simp, fun fuel rest done _ => ?_⟩
  unfold afterEntry
  rw [List.append_assoc, skipBlanks_append h]
  simp [skipBlanks]

theorem ReadsEntries.cons (hblank : Blank blanks) (hkey : Names key name) (hchars : Reads chars d)
    (htail : ReadsEntries tail fields) :
    ReadsEntries (',' :: blanks ++ (key ++ ':' :: ' ' :: chars) ++ tail) ((name, d) :: fields) := by
  refine ⟨fun rest => stops_cons rfl _, by simp, fun fuel rest done hfuel => ?_⟩
  simp only [List.length_cons, List.length_append] at hfuel
  cases fuel with
  | zero => omega
  | succ fuel =>
      have hvalue : readValue fuel (' ' :: (chars ++ (tail ++ rest))) = some (d, tail ++ rest) :=
        hchars.read_blank blank_space (by omega) (htail.stops rest)
      have hnext := htail.read fuel rest (put name d done) (by omega)
      have hafter : afterEntry (fuel + 1) (',' :: blanks ++ (key ++ ':' :: ' ' :: chars) ++ tail ++ rest) done =
          readEntries (fuel + 1) (blanks ++ (key ++ ':' :: ' ' :: (chars ++ (tail ++ rest)))) done := by
        simp [afterEntry, skipBlanks]
      rw [hafter, readEntries_succ hkey hblank hvalue, hnext]
      rfl

/-- A mapping with entries is read from its first entry on. -/
theorem ReadsEntries.reads (hblank : Blank blanks) (hkey : Names key name) (hchars : Reads chars d)
    (htail : ReadsEntries tail fields) :
    Reads ('\x7b' :: blanks ++ (key ++ ':' :: ' ' :: chars) ++ tail) (gather ((name, d) :: fields)) := by
  refine ⟨⟨'\x7b', _, rfl, fun _ => rfl, by decide⟩, fun fuel rest hfuel _ => ?_⟩
  have hpositive := htail.positive
  simp only [List.length_cons, List.length_append] at hfuel
  match fuel with
  | 0 => omega
  | 1 => omega
  | fuel + 2 =>
      have hvalue : readValue fuel (' ' :: (chars ++ (tail ++ rest))) = some (d, tail ++ rest) :=
        hchars.read_blank blank_space (by omega) (htail.stops rest)
      have hnext := htail.read fuel rest (put name d []) (by omega)
      have hentries := readEntries_succ hkey blank_nil hvalue []
      obtain ⟨letters, hletters, -⟩ := hkey
      have hinput : skipBlanks ('\x7b' :: blanks ++ (key ++ ':' :: ' ' :: chars) ++ tail ++ rest) =
          '\x7b' :: (blanks ++ (key ++ ':' :: ' ' :: (chars ++ (tail ++ rest)))) := by
        simp [skipBlanks]
      have hfirst : skipBlanks (blanks ++ (key ++ ':' :: ' ' :: (chars ++ (tail ++ rest)))) =
          key ++ ':' :: ' ' :: (chars ++ (tail ++ rest)) := by
        rw [skipBlanks_append hblank, hletters]
        rfl
      rw [readValue, hinput]
      simp only [hfirst]
      split
      · rename_i heq
        rw [hletters] at heq
        exact absurd (List.cons.inj heq).1 (by decide)
      · exact hentries.trans hnext

theorem reads_empty : Reads ['\x7b', '\x7d'] (gather []) := by
  refine ⟨⟨'\x7b', _, rfl, fun _ => rfl, by decide⟩, fun fuel rest hfuel _ => ?_⟩
  cases fuel with
  | zero => omega
  | succ fuel => rfl

/-! ## Documents -/

/-- The items behind the first one, up to the end of their list, are read back. -/
theorem exists_readsItems {depth : Nat} {items : List Document} {close : List CodePoint → List CodePoint}
    {closing : List Char} (hclose : Adds close closing) (hclosing : ReadsItems closing [])
    (hitems : ∀ item ∈ items, ∃ chars read, Adds (write layout depth item) chars ∧ Reads chars read ∧
      ReadBack item read) :
    ∃ tail read, Adds (fun out => close (writeItems layout depth items out)) tail ∧ ReadsItems tail read ∧
      List.Forall₂ ReadBack items read := by
  induction items with
  | nil =>
      refine ⟨closing, [], ?_, hclosing, .nil⟩
      intro out
      change close (writeItems layout depth [] out) = _
      rw [writeItems, hclose]
  | cons item items ih =>
      obtain ⟨⟨chars, first, hadds, hreads, hback⟩, hrest⟩ := List.forall_mem_cons.mp hitems
      obtain ⟨tail, read, htail, hreadsTail, hbackTail⟩ := ih hrest
      obtain ⟨blanks, hblank, hseparate⟩ := adds_separate layout depth
      refine ⟨',' :: blanks ++ chars ++ tail, first :: read, ?_, hreadsTail.cons hblank hreads, .cons hback hbackTail⟩
      intro out
      change close (writeItems layout depth (item :: items) out) = _
      rw [writeItems]
      exact htail.comp (hadds.comp hseparate) out

/-- A name is written between quotes. -/
theorem exists_names (h : name.Writable) : ∃ key, Adds (writeText false name) key ∧ Names key name := by
  obtain ⟨letters, hadds, hread⟩ := readText?_writeText h
  exact ⟨_, hadds, letters, rfl, hread⟩

theorem adds_entry {layout : Layout} {depth : Nat} {out : List CodePoint → List CodePoint} {before : List Char}
    (hascii : layout.ascii = false) (hout : Adds out before) (hkey : Adds (writeText false name) key)
    (hchars : Adds (write layout depth d) chars) :
    Adds (fun done => write layout depth d (' ' :: ':' :: writeText layout.ascii (keyText (.text name)) (out done)))
      (before ++ (key ++ ':' :: ' ' :: chars)) := by
  intro done
  have hname : keyText (.text name) = name := rfl
  simp only [hascii, hname]
  rw [hout, hkey, hchars]
  simp

/-- The entries behind the first one, up to the end of their mapping, are read back. -/
theorem exists_readsEntries {depth : Nat} {entries : List (Document × Document)}
    {close : List CodePoint → List CodePoint} {closing : List Char} (hascii : layout.ascii = false)
    (hclose : Adds close closing) (hclosing : ReadsEntries closing [])
    (hkeys : ∀ entry ∈ entries, ∃ name : Text, entry.1 = .text name ∧ name.Writable)
    (hvalues : ∀ entry ∈ entries, ∃ chars read, Adds (write layout depth entry.2) chars ∧ Reads chars read ∧
      ReadBack entry.2 read) :
    ∃ tail fields, Adds (fun out => close (writeEntries layout depth entries out)) tail ∧ ReadsEntries tail fields ∧
      entries.map (·.1) = fields.map (fun field => .text field.1) ∧
      List.Forall₂ ReadBack (entries.map (·.2)) (fields.map (·.2)) := by
  induction entries with
  | nil =>
      refine ⟨closing, [], ?_, hclosing, rfl, .nil⟩
      intro out
      change close (writeEntries layout depth [] out) = _
      rw [writeEntries, hclose]
  | cons entry entries ih =>
      obtain ⟨⟨name, hname, hwritable⟩, hkeys⟩ := List.forall_mem_cons.mp hkeys
      obtain ⟨⟨chars, first, hadds, hreads, hback⟩, hvalues⟩ := List.forall_mem_cons.mp hvalues
      obtain ⟨tail, fields, htail, hreadsTail, hnames, hbackTail⟩ := ih hkeys hvalues
      obtain ⟨blanks, hblank, hseparate⟩ := adds_separate layout depth
      obtain ⟨key, hkey, hreadsKey⟩ := exists_names hwritable
      obtain ⟨_, value⟩ := entry
      dsimp only at hname
      subst hname
      refine ⟨',' :: blanks ++ (key ++ ':' :: ' ' :: chars) ++ tail, (name, first) :: fields, ?_,
        hreadsTail.cons hblank hreadsKey hreads, ?_, .cons hback hbackTail⟩
      · intro out
        change close (writeEntries layout depth ((.text name, value) :: entries) out) = _
        rw [writeEntries]
        exact htail.comp (adds_entry hascii hseparate hkey hadds) out
      · simp [hnames]

/-- A document of texts that can be written is read back, in a layout that keeps all characters. -/
theorem exists_reads (hascii : layout.ascii = false) (h : d.Writable) (depth : Nat) :
    ∃ chars read, Adds (write layout depth d) chars ∧ Reads chars read ∧ ReadBack d read := by
  induction h generalizing depth with
  | null =>
      refine ⟨_, _, ?_, reads_null, .null⟩
      intro out
      rw [write]
      exact adds_emit _ out
  | bool value =>
      cases value with
      | true =>
          refine ⟨_, _, ?_, reads_true, .bool true⟩
          intro out
          rw [write]
          exact adds_emit _ out
      | false =>
          refine ⟨_, _, ?_, reads_false, .bool false⟩
          intro out
          rw [write]
          exact adds_emit _ out
  | int value =>
      refine ⟨_, _, ?_, reads_int value, .int value⟩
      intro out
      rw [write]
      exact adds_emit _ out
  | float x =>
      obtain ⟨y, hreads⟩ := exists_reads_float x
      refine ⟨_, _, ?_, hreads, .float x y⟩
      intro out
      rw [write]
      exact adds_emit _ out
  | @text value hvalue =>
      obtain ⟨chars, hadds, hreads⟩ := reads_text hvalue
      refine ⟨chars, _, ?_, hreads, .text value⟩
      intro out
      rw [write, hascii]
      exact hadds out
  | @list items _ ih =>
      cases items with
      | nil =>
          refine ⟨_, _, ?_, reads_nil, .list .nil⟩
          intro out
          rw [write]
          rfl
      | cons item items =>
          obtain ⟨hitem, hitems⟩ := List.forall_mem_cons.mp ih
          obtain ⟨chars, first, hadds, hreads, hback⟩ := hitem (depth + 1)
          obtain ⟨blanks, hblank, hopen⟩ := adds_newline layout (depth + 1)
          obtain ⟨closing, hclosing, hclose⟩ := adds_newline layout depth
          obtain ⟨tail, read, htail, hreadsTail, hbackTail⟩ := exists_readsItems (hclose.snoc ']')
            (readsItems_nil hclosing) fun item hmem => hitems item hmem (depth + 1)
          refine ⟨'[' :: blanks ++ chars ++ tail, _, ?_, hreadsTail.reads hblank hreads, .list (.cons hback hbackTail)⟩
          intro out
          rw [write]
          exact htail.comp (hadds.comp (hopen.comp (adds_cons '['))) out
  | @map entries hkeys _ ih =>
      cases entries with
      | nil =>
          refine ⟨_, _, ?_, reads_empty, .map rfl .nil⟩
          intro out
          rw [write]
          rfl
      | cons entry entries =>
          obtain ⟨⟨name, hname, hwritable⟩, hkeys⟩ := List.forall_mem_cons.mp hkeys
          obtain ⟨hvalue, hvalues⟩ := List.forall_mem_cons.mp ih
          obtain ⟨chars, first, hadds, hreads, hback⟩ := hvalue (depth + 1)
          obtain ⟨blanks, hblank, hopen⟩ := adds_newline layout (depth + 1)
          obtain ⟨closing, hclosing, hclose⟩ := adds_newline layout depth
          obtain ⟨key, hkey, hreadsKey⟩ := exists_names hwritable
          obtain ⟨tail, fields, htail, hreadsTail, hnames, hbackTail⟩ := exists_readsEntries hascii
            (hclose.snoc '\x7d') (readsEntries_nil hclosing) hkeys fun entry hmem => hvalues entry hmem (depth + 1)
          obtain ⟨_, value⟩ := entry
          dsimp only at hname
          subst hname
          refine ⟨'\x7b' :: blanks ++ (key ++ ':' :: ' ' :: chars) ++ tail, _, ?_,
            hreadsTail.reads hblank hreadsKey hreads, .map ?_ (.cons hback hbackTail)⟩
          · intro out
            rw [write]
            exact htail.comp (adds_entry hascii (hopen.comp (adds_cons '\x7b')) hkey hadds) out
          · simp [hnames]

/-- The text of a document of texts that can be written is read as a document. -/
theorem exists_read?_render (hascii : layout.ascii = false) (h : d.Writable) :
    ∃ chars read, render layout d = .ofChars chars ∧ read? (String.ofList chars) = some read ∧ ReadBack d read := by
  obtain ⟨chars, read, hadds, hreads, hback⟩ := exists_reads hascii h 0
  refine ⟨chars, read, ?_, ?_, hback⟩
  · unfold render
    rw [hadds]
    simp [Text.ofChars]
  · have hvalue : readValue (chars.length + 1) (chars ++ []) = some (read, []) :=
      hreads.read _ [] (Nat.lt_succ_self _) nofun
    unfold read?
    rw [List.append_nil] at hvalue
    simp only [String.toList_ofList, hvalue]
    rfl

end Json

end Conformance
