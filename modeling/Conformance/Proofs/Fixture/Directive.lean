import Conformance.Fixture.Metadata
import Conformance.Proofs.Text.Lines

/-!
# What a block of directives holds

The block of a fixture, read off its rows: it stands below the first row that opens one and above the first
later row that closes it.  A fixture has to be rejected exactly if the directive that says so stands in it.

Main results:

- `HasBlock.blockLines_eq`, `exists_hasBlock`: the lines of the block, from its first row to its last.
- `mem_blockLines_iff`: the lines of the block are the trimmed rows between its ends.
- `Metadata.step_eq`: the effect of each directive.
- `shouldFail_ofText_iff`: when a fixture says that it has to be rejected.
-/

namespace Conformance.Fixture

open Text

/-! ## Rows of a block -/

/-- A row without what is trimmed off its ends. -/
def trimmed (row : List CodePoint) : List CodePoint :=
  trim isLineMargin row

/-- A row opens a block if it begins a comment and names the fixture. -/
def Opens (row : List CodePoint) : Prop :=
  ("/*" : Text).toList <+: trimmed row ∧ (":name:" : Text).toList <:+: trimmed row

/-- A row closes a block if a comment ends in it. -/
def Closes (row : List CodePoint) : Prop :=
  ("*/" : Text).toList <:+: row

theorem occursIn_iff_infix {part text : List CodePoint} : occursIn part text = true ↔ part <:+: text := by
  rw [occursIn_iff]
  constructor
  · rintro ⟨front, back, rfl⟩
    exact ⟨front, back, rfl⟩
  · rintro ⟨front, back, rfl⟩
    exact ⟨front, back, rfl⟩

theorem opensBlock_trimmed_iff {row : List CodePoint} : opensBlock (trimmed row) = true ↔ Opens row := by
  rw [opensBlock, Bool.and_eq_true, List.isPrefixOf_iff_prefix, occursIn_iff_infix, Opens]

theorem closesBlock_trimmed_iff {row : List CodePoint} : closesBlock (trimmed row) = true ↔ Closes row := by
  rw [closesBlock, occursIn_iff_infix]
  exact infix_trim_iff (by decide) (by decide)

instance (row : List CodePoint) : Decidable (Opens row) :=
  decidable_of_iff (opensBlock (trimmed row) = true) opensBlock_trimmed_iff

instance (row : List CodePoint) : Decidable (Closes row) :=
  decidable_of_iff (occursIn ("*/" : Text).toList row = true) occursIn_iff_infix

/-- Rows come apart in front of the first one of a kind. -/
theorem exists_split {p : List CodePoint → Prop} [DecidablePred p] (lines : List (List CodePoint)) :
    ∃ front back, lines = front ++ back ∧ (∀ row ∈ front, ¬p row) ∧ ∀ row ∈ back.head?, p row := by
  induction lines with
  | nil => exact ⟨[], [], rfl, List.forall_mem_nil _, by simp⟩
  | cons row lines ih =>
      by_cases hrow : p row
      · exact ⟨[], row :: lines, rfl, List.forall_mem_nil _, by simpa using hrow⟩
      · obtain ⟨front, back, rfl, hfront, hback⟩ := ih
        exact ⟨row :: front, back, rfl, List.forall_mem_cons.mpr ⟨hrow, hfront⟩, hback⟩

/-! ## Blocks -/

/-- A row stands in the block of a text: the block opens above it, at the first row that can open one, and
neither a row between nor the row itself closes it. -/
def InBlock (text : Text) (row : List CodePoint) : Prop :=
  ∃ above opening inside below,
    rows text.toList = above ++ opening :: (inside ++ row :: below) ∧
      (∀ r ∈ above, ¬Opens r) ∧ Opens opening ∧ (∀ r ∈ inside, ¬Closes r) ∧ ¬Closes row

/-- The block of a text, row by row. -/
theorem blockLines_eq_map (text : Text) :
    blockLines text =
      ((((rows text.toList).dropWhile fun row => !opensBlock (trimmed row)).drop 1).takeWhile
        fun row => !closesBlock (trimmed row)).map trimmed := by
  change blockOf ((rows text.toList).map trimmed) = _
  rw [blockOf, List.dropWhile_map, ← List.map_drop, List.takeWhile_map]
  rfl

/-- The block of a text is looked for below the first row that opens one, whatever stands above. -/
theorem blockLines_of_opening {text : Text} {above below : List (List CodePoint)} {opening : List CodePoint}
    (hrows : rows text.toList = above ++ opening :: below) (habove : ∀ row ∈ above, ¬Opens row)
    (hopening : Opens opening) :
    blockLines text = (below.takeWhile fun row => !closesBlock (trimmed row)).map trimmed := by
  have hskipped : ∀ row ∈ above, (!opensBlock (trimmed row)) = true := by
    intro row hrow
    simpa using mt opensBlock_trimmed_iff.mp (habove row hrow)
  have hfound : opensBlock (trimmed opening) = true := opensBlock_trimmed_iff.mpr hopening
  rw [blockLines_eq_map, hrows, List.dropWhile_append_of_pos hskipped, List.dropWhile_cons_of_neg (by simp [hfound]),
    List.drop_one, List.tail_cons]

/-- The rows of the block of a text: those below the first row that opens one, down to the first of them that closes
it, or to the end of the text if none does. -/
inductive HasBlock (text : Text) : List (List CodePoint) → Prop
  | absent : (∀ row ∈ rows text.toList, ¬Opens row) → HasBlock text []
  | opened {above inside below : List (List CodePoint)} {opening : List CodePoint} :
      rows text.toList = above ++ opening :: (inside ++ below) → (∀ row ∈ above, ¬Opens row) → Opens opening →
        (∀ row ∈ inside, ¬Closes row) → (∀ row ∈ below.head?, Closes row) → HasBlock text inside

/-- The lines of the block are its trimmed rows, in order. -/
theorem HasBlock.blockLines_eq {text : Text} {block : List (List CodePoint)} (h : HasBlock text block) :
    blockLines text = block.map trimmed := by
  cases h with
  | absent hnone =>
      have hskipped : ∀ row ∈ rows text.toList, (!opensBlock (trimmed row)) = true := by
        intro row hrow
        simpa using mt opensBlock_trimmed_iff.mp (hnone row hrow)
      have hdropped : (rows text.toList ++ []).dropWhile (fun row => !opensBlock (trimmed row)) = [] :=
        List.dropWhile_append_of_pos hskipped
      rw [List.append_nil] at hdropped
      rw [blockLines_eq_map, hdropped]
      rfl
  | @opened above _ below opening hrows habove hopening hinside hbelow =>
      have hstays : ∀ row ∈ block, (!closesBlock (trimmed row)) = true := by
        intro row hrow
        simpa using mt closesBlock_trimmed_iff.mp (hinside row hrow)
      have hends : (below.takeWhile fun row => !closesBlock (trimmed row)) = [] := by
        cases below with
        | nil => rfl
        | cons row below =>
            have hcloses := closesBlock_trimmed_iff.mpr (hbelow row (Option.mem_some.mpr rfl))
            exact List.takeWhile_cons_of_neg (by simp [hcloses])
      rw [blockLines_of_opening hrows habove hopening, List.takeWhile_append_of_pos hstays, hends, List.append_nil]

/-- Every text has a block, be it without rows. -/
theorem exists_hasBlock (text : Text) : ∃ block, HasBlock text block := by
  obtain ⟨above, lower, hrows, habove, hlower⟩ := exists_split (p := Opens) (rows text.toList)
  cases lower with
  | nil =>
      rw [List.append_nil] at hrows
      exact ⟨[], .absent (hrows ▸ habove)⟩
  | cons opening lower =>
      obtain ⟨inside, below, rfl, hinside, hbelow⟩ := exists_split (p := Closes) lower
      exact ⟨inside, .opened hrows habove (hlower opening rfl) hinside hbelow⟩

/-- The rows of the block are those that stand in it. -/
theorem HasBlock.inBlock {text : Text} {block : List (List CodePoint)} {row : List CodePoint} (h : HasBlock text block)
    (hrow : row ∈ block) : InBlock text row := by
  cases h with
  | absent => exact absurd hrow List.not_mem_nil
  | @opened above _ below opening hrows habove hopening hinside hbelow =>
      obtain ⟨front, back, rfl⟩ := List.append_of_mem hrow
      refine ⟨above, opening, front, back ++ below, ?_, habove, hopening, ?_, hinside row hrow⟩
      · rw [hrows, List.append_assoc, List.cons_append]
      · exact fun r hr => hinside r (List.mem_append_left _ hr)

/-- The lines of the block are the trimmed rows that stand in it. -/
theorem mem_blockLines_iff {text : Text} {line : List CodePoint} :
    line ∈ blockLines text ↔ ∃ row, InBlock text row ∧ trimmed row = line := by
  constructor
  · intro hline
    obtain ⟨block, hblock⟩ := exists_hasBlock text
    rw [hblock.blockLines_eq, List.mem_map] at hline
    obtain ⟨row, hrow, htrimmed⟩ := hline
    exact ⟨row, hblock.inBlock hrow, htrimmed⟩
  · rintro ⟨row, ⟨above, opening, inside, below, hrows, habove, hopening, hinside, hrow⟩, rfl⟩
    have hstays : ∀ r, ¬Closes r → (!closesBlock (trimmed r)) = true := by
      intro r hr
      simpa using mt closesBlock_trimmed_iff.mp hr
    rw [blockLines_of_opening hrows habove hopening,
      List.takeWhile_append_of_pos fun r hr => hstays r (hinside r hr),
      List.takeWhile_cons_of_pos (p := fun r => !closesBlock (trimmed r)) (hstays row hrow)]
    exact List.mem_map_of_mem (List.mem_append_right _ List.mem_cons_self)

/-! ## Rejection -/

/-- A text says that it has to be rejected if the directive for that stands in its block. -/
def MarkedToFail (text : Text) : Prop :=
  ∃ row, InBlock text row ∧ Metadata.reasonStart.toList <+: trimmed row

/-- The known directives differ before either ends, so a line begins with one of them only. -/
theorem not_prefix_of_prefix {start other : Text} {line : List CodePoint}
    (hapart : ¬start.toList <+: other.toList ∧ ¬other.toList <+: start.toList) (h : start.toList <+: line) :
    ¬other.toList <+: line := by
  intro hother
  rcases List.prefix_or_prefix_of_prefix h hother with hle | hle
  · exact hapart.1 hle
  · exact hapart.2 hle

/-- Each of the known directives has an effect on its own part of the metadata, and other lines have none. -/
theorem Metadata.step_eq (m : Metadata) (line : List CodePoint) :
    Metadata.table.step m line =
      { description :=
          if descriptionStart.toList <+: line then value (line.drop descriptionStart.length) else m.description
        tags := if tagsStart.toList <+: line then words (line.drop tagsStart.length) else m.tags
        shouldFail := if reasonStart.toList <+: line then true else m.shouldFail
        reason := if reasonStart.toList <+: line then some (value (line.drop reasonStart.length)) else m.reason } := by
  unfold DirectiveTable.step DirectiveTable.handlerFor Metadata.table
  by_cases hdescription : descriptionStart.toList <+: line
  · have hreason : ¬reasonStart.toList <+: line := not_prefix_of_prefix (by decide) hdescription
    have htags : ¬tagsStart.toList <+: line := not_prefix_of_prefix (by decide) hdescription
    simp [hdescription, hreason, htags, Text.length]
  · by_cases hreason : reasonStart.toList <+: line
    · have htags : ¬tagsStart.toList <+: line := not_prefix_of_prefix (by decide) hreason
      simp [hdescription, hreason, htags, Text.length]
    · by_cases htags : tagsStart.toList <+: line
      · simp [hdescription, hreason, htags, Text.length]
      · simp [hdescription, hreason, htags]

/-- Of the known directives, only the one that gives a reason has an effect on whether a fixture has to be
rejected. -/
theorem shouldFail_step (m : Metadata) (line : List CodePoint) :
    (Metadata.table.step m line).shouldFail = true ↔
      m.shouldFail = true ∨ Metadata.reasonStart.toList <+: line := by
  rw [Metadata.step_eq]
  by_cases hreason : Metadata.reasonStart.toList <+: line
  · simp [hreason]
  · simp [hreason]

theorem shouldFail_foldl_step (m : Metadata) (lines : List (List CodePoint)) :
    (lines.foldl Metadata.table.step m).shouldFail = true ↔
      m.shouldFail = true ∨ ∃ line ∈ lines, Metadata.reasonStart.toList <+: line := by
  induction lines generalizing m with
  | nil => simp
  | cons line lines ih =>
      rw [List.foldl_cons, ih, shouldFail_step, or_assoc]
      simp only [List.mem_cons, exists_eq_or_imp]

/-- A fixture has to be rejected exactly if the directive that says so stands in its block. -/
theorem shouldFail_ofText_iff {text : Text} :
    (Metadata.ofText text).shouldFail = true ↔ MarkedToFail text := by
  rw [Metadata.ofText, DirectiveTable.parse, shouldFail_foldl_step]
  constructor
  · rintro (h | ⟨line, hline, hstart⟩)
    · exact absurd h Bool.false_ne_true
    · obtain ⟨row, hrow, rfl⟩ := mem_blockLines_iff.mp hline
      exact ⟨row, hrow, hstart⟩
  · rintro ⟨row, hrow, hstart⟩
    exact .inr ⟨trimmed row, mem_blockLines_iff.mpr ⟨row, hrow, rfl⟩, hstart⟩

end Conformance.Fixture
