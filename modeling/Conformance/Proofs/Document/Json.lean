import Conformance.Document.Json
import Conformance.Text.Utf8

/-!
# Documents that can be written

JSON with all characters as they are holds the characters of the texts in a document.  It can be written as
bytes if these texts can be.

Main results:

- `Json.writable_render`: a document of texts that can be written is rendered as a text that can be written.
-/

namespace Conformance

/-! ## Texts -/

/-- There are no halves among some code points. -/
def Whole (points : List CodePoint) : Prop :=
  ∀ c ∈ points, c.isHalf = false

/-- A text can be written as bytes. -/
def Text.Writable (t : Text) : Prop :=
  Whole t.toList

theorem Text.writable_iff {t : Text} : t.Writable ↔ Text.encodingFault? t = none :=
  (Text.encodingFault?_eq_none_iff t).symm

namespace Whole

variable {points rest : List CodePoint} {c : CodePoint}

theorem nil : Whole [] :=
  fun _ h => nomatch h

theorem cons (hc : c.isHalf = false) (hrest : Whole rest) : Whole (c :: rest) :=
  List.forall_mem_cons.mpr ⟨hc, hrest⟩

theorem append (hpoints : Whole points) (hrest : Whole rest) : Whole (points ++ rest) :=
  List.forall_mem_append.mpr ⟨hpoints, hrest⟩

theorem reverse (hpoints : Whole points) : Whole points.reverse :=
  fun c hc => hpoints c (List.mem_reverse.mp hc)

theorem chars (chars : List Char) : Whole (chars.map .char) := by
  intro c hc
  obtain ⟨_, -, rfl⟩ := List.mem_map.mp hc
  rfl

theorem replicate (n : Nat) (c : Char) : Whole (List.replicate n (.char c)) := by
  intro point hpoint
  rw [List.eq_of_mem_replicate hpoint]
  rfl

theorem hexDigits (width n : Nat) : Whole (Text.hexDigits width n) := by
  induction width generalizing n with
  | zero => exact nil
  | succ width ih => exact (ih _).append (cons rfl nil)

end Whole

theorem Text.writable_ofString (s : String) : (Text.ofString s).Writable :=
  Whole.chars s.toList

namespace Json

variable {layout : Layout} {points out : List CodePoint} {c : CodePoint} {t : Text}

/-! ## Writing texts -/

theorem whole_unitEscape (unit : Nat) : Whole (unitEscape unit) :=
  .cons rfl (.cons rfl (.hexDigits 4 unit))

/-- A character is written as characters. -/
theorem whole_writtenChar (ascii : Bool) (hc : c.isHalf = false) : Whole (writtenChar ascii c) := by
  have hescaped (letter : Char) : Whole ['\\', .char letter] := .cons rfl (.cons rfl .nil)
  unfold writtenChar
  repeat' split
  all_goals first
    | exact hescaped _
    | exact whole_unitEscape _
    | skip
  · intro point hpoint
    obtain ⟨unit, -, hunit⟩ := List.mem_flatMap.mp hpoint
    exact whole_unitEscape unit point hunit
  · exact .cons hc .nil

theorem whole_emit (hpoints : Whole points) (hout : Whole out) : Whole (emit points out) :=
  hpoints.reverse.append hout

/-- A text is written as characters. -/
theorem whole_writeText (ascii : Bool) (ht : t.Writable) (hout : Whole out) :
    Whole (writeText ascii t out) := by
  have hfold (points written : List CodePoint) (hpoints : Whole points) (hwritten : Whole written) :
      Whole (points.foldl (fun written c => emit (writtenChar ascii c) written) written) := by
    induction points generalizing written with
    | nil => exact hwritten
    | cons c rest ih =>
        obtain ⟨hc, hrest⟩ := List.forall_mem_cons.mp hpoints
        exact ih _ hrest (whole_emit (whole_writtenChar ascii hc) hwritten)
  exact .cons rfl (hfold _ _ ht (.cons rfl hout))

theorem whole_newline (layout : Layout) (depth : Nat) (hout : Whole out) :
    Whole (layout.newline depth out) := by
  unfold Layout.newline
  split
  · exact hout
  · exact (Whole.replicate _ ' ').append (.cons rfl hout)

theorem whole_separate (layout : Layout) (depth : Nat) (hout : Whole out) :
    Whole (layout.separate depth out) := by
  unfold Layout.separate
  split
  · exact .cons rfl (.cons rfl hout)
  · exact whole_newline layout depth (.cons rfl hout)

end Json

/-! ## Documents -/

/-- A document of texts that can be written.  Its keys are texts. -/
inductive Document.Writable : Document → Prop
  | null : Writable .null
  | bool (value : Bool) : Writable (.bool value)
  | int (value : Int) : Writable (.int value)
  | float (value : Float) : Writable (.float value)
  | text {value : Text} : value.Writable → Writable (.text value)
  | list {items : List Document} : (∀ item ∈ items, Writable item) → Writable (.list items)
  | map {entries : List (Document × Document)} :
      (∀ entry ∈ entries, ∃ name : Text, entry.1 = .text name ∧ name.Writable) →
      (∀ entry ∈ entries, Writable entry.2) → Writable (.map entries)

namespace Json

theorem whole_writeItems {layout : Layout} {depth : Nat} {items : List Document}
    (hitems : ∀ item ∈ items, ∀ out, Whole out → Whole (write layout depth item out)) {out : List CodePoint}
    (hout : Whole out) : Whole (writeItems layout depth items out) := by
  induction items generalizing out with
  | nil =>
      rw [writeItems]
      exact hout
  | cons item rest ih =>
      obtain ⟨hitem, hrest⟩ := List.forall_mem_cons.mp hitems
      rw [writeItems]
      exact ih hrest (hitem _ (whole_separate layout depth hout))

/-- A key is written with a colon behind it. -/
theorem whole_key {ascii : Bool} {key : Document} {out : List CodePoint}
    (hkey : ∃ name : Text, key = .text name ∧ name.Writable) (hout : Whole out) :
    Whole (' ' :: ':' :: writeText ascii (keyText key) out) := by
  obtain ⟨name, rfl, hname⟩ := hkey
  exact .cons rfl (.cons rfl (whole_writeText ascii hname hout))

theorem whole_writeEntries {layout : Layout} {depth : Nat} {entries : List (Document × Document)}
    (hkeys : ∀ entry ∈ entries, ∃ name : Text, entry.1 = .text name ∧ name.Writable)
    (hvalues : ∀ entry ∈ entries, ∀ out, Whole out → Whole (write layout depth entry.2 out))
    {out : List CodePoint} (hout : Whole out) : Whole (writeEntries layout depth entries out) := by
  induction entries generalizing out with
  | nil =>
      rw [writeEntries]
      exact hout
  | cons entry rest ih =>
      obtain ⟨hkey, hkeys⟩ := List.forall_mem_cons.mp hkeys
      obtain ⟨hvalue, hvalues⟩ := List.forall_mem_cons.mp hvalues
      rw [writeEntries]
      exact ih hkeys hvalues (hvalue _ (whole_key hkey (whole_separate layout depth hout)))

/-- A document of texts that can be written is written as characters. -/
theorem whole_write (layout : Layout) {d : Document} (hd : d.Writable) (depth : Nat) {out : List CodePoint}
    (hout : Whole out) : Whole (write layout depth d out) := by
  induction hd generalizing depth out with
  | null =>
      rw [write]
      exact whole_emit (Text.writable_ofString _) hout
  | bool value =>
      rw [write]
      cases value <;> exact whole_emit (Text.writable_ofString _) hout
  | int value =>
      rw [write]
      exact whole_emit (Text.writable_ofString _) hout
  | float value =>
      rw [write]
      exact whole_emit (Text.writable_ofString _) hout
  | text hvalue =>
      rw [write]
      exact whole_writeText _ hvalue hout
  | @list items _ ih =>
      cases items with
      | nil =>
          rw [write]
          exact .cons rfl (.cons rfl hout)
      | cons item rest =>
          obtain ⟨hitem, hrest⟩ := List.forall_mem_cons.mp ih
          rw [write]
          refine .cons rfl (whole_newline layout depth ?_)
          refine whole_writeItems (fun item hmem out => hrest item hmem (depth + 1)) ?_
          exact hitem _ (whole_newline layout _ (.cons rfl hout))
  | @map entries hkeys _ ih =>
      cases entries with
      | nil =>
          rw [write]
          exact .cons rfl (.cons rfl hout)
      | cons entry rest =>
          obtain ⟨hkey, hkeys⟩ := List.forall_mem_cons.mp hkeys
          obtain ⟨hvalue, hvalues⟩ := List.forall_mem_cons.mp ih
          rw [write]
          refine .cons rfl (whole_newline layout depth ?_)
          refine whole_writeEntries hkeys (fun entry hmem out => hvalues entry hmem (depth + 1)) ?_
          exact hvalue _ (whole_key hkey (whole_newline layout _ (.cons rfl hout)))

/-- A document of texts that can be written is rendered as a text that can be written. -/
theorem writable_render (layout : Layout) {d : Document} (hd : d.Writable) : (render layout d).Writable :=
  (whole_write layout hd 0 .nil).reverse

end Json

end Conformance
