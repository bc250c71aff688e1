import Conformance.Proofs.Fixture.Directive
import Mathlib.Data.List.Forall2
import Mathlib.Data.List.Induction

/-!
# The layout of a fixture

What a fixture says about itself depends on the rows of its block only, and on those only up to their margins.  The
ends of lines, the indentation and all that stands around the block make no difference, and of the rows that begin
with one directive the last one counts.

Main results:

- `foldl_step_eq_lastOf`: the last line of each directive counts.
- `Relaid.blockLines_eq`: the lines of the block of a text in another layout.
- `ofText_relaid_and_lastOf`: the metadata of a text, in any layout.
-/

namespace Conformance.Fixture

open Text

/-! ## The last line of each directive -/

/-- What stands behind a directive in the last line that begins with it. -/
def lastBehind? (start : Text) (lines : List (List CodePoint)) : Option (List CodePoint) :=
  (lines.filter (start.toList.isPrefixOf ·)).getLast?.map (·.drop start.length)

/-- One line more is the last one of a directive if it begins with the directive. -/
theorem lastBehind?_concat (start : Text) (lines : List (List CodePoint)) (line : List CodePoint) :
    lastBehind? start (lines ++ [line]) =
      if start.toList <+: line then some (line.drop start.length) else lastBehind? start lines := by
  rw [lastBehind?, List.filter_append]
  by_cases hstart : start.toList <+: line
  · rw [List.filter_singleton, List.isPrefixOf_iff_prefix.mpr hstart, if_pos hstart]
    simp
  · have hnot : start.toList.isPrefixOf line = false :=
      Bool.eq_false_iff.mpr (mt List.isPrefixOf_iff_prefix.mp hstart)
    rw [List.filter_singleton, hnot, if_neg hstart]
    simp [lastBehind?]

namespace Metadata

/-- What lines say about a fixture if of each directive the last line counts. -/
def lastOf (lines : List (List CodePoint)) : Metadata where
  description := ((lastBehind? descriptionStart lines).map value).getD ""
  tags := ((lastBehind? tagsStart lines).map words).getD []
  shouldFail := (lastBehind? reasonStart lines).isSome
  reason := (lastBehind? reasonStart lines).map value

/-- One line more is taken in as the table of directives says. -/
theorem lastOf_concat (lines : List (List CodePoint)) (line : List CodePoint) :
    lastOf (lines ++ [line]) = table.step (lastOf lines) line := by
  rw [step_eq]
  simp only [lastOf, lastBehind?_concat, mk.injEq]
  refine ⟨?_, ?_, ?_, ?_⟩
  · by_cases hdescription : descriptionStart.toList <+: line
    · simp only [if_pos hdescription, Option.map_some, Option.getD_some]
    · simp only [if_neg hdescription]
  · by_cases htags : tagsStart.toList <+: line
    · simp only [if_pos htags, Option.map_some, Option.getD_some]
    · simp only [if_neg htags]
  · by_cases hreason : reasonStart.toList <+: line
    · simp only [if_pos hreason, Option.isSome_some]
    · simp only [if_neg hreason]
  · by_cases hreason : reasonStart.toList <+: line
    · simp only [if_pos hreason, Option.map_some]
    · simp only [if_neg hreason]

/-- Of each directive the last line counts. -/
theorem foldl_step_eq_lastOf (lines : List (List CodePoint)) : lines.foldl table.step empty = lastOf lines := by
  induction lines using List.reverseRecOn with
  | nil => rfl
  | append_singleton lines line ih => rw [List.foldl_concat, ih, lastOf_concat]

end Metadata

/-! ## Margins of rows -/

/-- A margin of a row: blanks, tabs and carriage returns. -/
def IsMargin (margin : List CodePoint) : Prop :=
  ∀ c ∈ margin, c = .char ' ' ∨ c = .char '\t' ∨ c = .char '\r'

/-- Two rows differ at most in their margins. -/
def SameInside (row other : List CodePoint) : Prop :=
  ∃ inside front back front' back',
    row = front ++ inside ++ back ∧ other = front' ++ inside ++ back' ∧
      IsMargin front ∧ IsMargin back ∧ IsMargin front' ∧ IsMargin back'

theorem IsMargin.isLineMargin {margin : List CodePoint} (h : IsMargin margin) :
    ∀ c ∈ margin, isLineMargin c = true := by
  intro c hc
  rcases h c hc with rfl | rfl | rfl <;> decide

/-- The margins of a row are trimmed off it. -/
theorem SameInside.trimmed_eq {row other : List CodePoint} (h : SameInside row other) :
    trimmed other = trimmed row := by
  obtain ⟨inside, front, back, front', back', rfl, rfl, hfront, hback, hfront', hback'⟩ := h
  rw [trimmed, trimmed, trim_append_all inside hfront'.isLineMargin hback'.isLineMargin,
    trim_append_all inside hfront.isLineMargin hback.isLineMargin]

/-- A block is looked for among trimmed rows. -/
theorem blockLines_eq_of_sameInside {text other : Text}
    (h : List.Forall₂ SameInside (rows text.toList) (rows other.toList)) : blockLines other = blockLines text := by
  have htrimmed : ∀ {lines others : List (List CodePoint)}, List.Forall₂ SameInside lines others →
      others.map trimmed = lines.map trimmed := by
    intro lines others hlines
    induction hlines with
    | nil => rfl
    | cons hrow _ ih => rw [List.map_cons, List.map_cons, hrow.trimmed_eq, ih]
  change blockOf ((rows other.toList).map trimmed) = blockOf ((rows text.toList).map trimmed)
  rw [htrimmed h]

/-! ## Ends of lines -/

/-- A carriage return in front of every line feed. -/
def addReturns (text : List CodePoint) : List CodePoint :=
  text.flatMap fun c => if c = .char '\n' then [.char '\r', .char '\n'] else [c]

/-- A text with a carriage return in front of every line feed. -/
def withReturns (text : Text) : Text :=
  ⟨addReturns text.toList⟩

/-- A row, perhaps with a carriage return at its end. -/
def IsReturned (row other : List CodePoint) : Prop :=
  other = row ∨ other = row ++ [.char '\r']

theorem IsReturned.cons {row other : List CodePoint} (c : CodePoint) (h : IsReturned row other) :
    IsReturned (c :: row) (c :: other) := by
  rcases h with rfl | rfl
  · exact .inl rfl
  · exact .inr rfl

theorem IsReturned.sameInside {row other : List CodePoint} (h : IsReturned row other) : SameInside row other := by
  rcases h with rfl | rfl
  · exact ⟨other, [], [], [], [], by simp, by simp, by simp [IsMargin]⟩
  · exact ⟨row, [], [], [], [.char '\r'], by simp, by simp, by simp [IsMargin]⟩

/-- A character that is no line feed belongs to the first row. -/
theorem rows_cons {c : CodePoint} (hc : c ≠ .char '\n') (text : List CodePoint) :
    rows (c :: text) = (rows text).modifyHead (c :: ·) := by
  rw [rows, List.splitOn_cons_eq_if_modifyHead, if_neg (by simpa using hc), rows]

/-- A line feed ends the first row. -/
theorem rows_lineFeed (text : List CodePoint) : rows (.char '\n' :: text) = [] :: rows text := by
  rw [rows, List.splitOn_cons_eq_if_modifyHead, if_pos (by decide), rows]

/-- Carriage returns in front of line feeds stand at the ends of rows. -/
theorem isReturned_rows_addReturns (text : List CodePoint) :
    List.Forall₂ IsReturned (rows text) (rows (addReturns text)) := by
  induction text with
  | nil => exact .cons (.inl rfl) .nil
  | cons c text ih =>
      by_cases hc : c = .char '\n'
      · have hreturns : addReturns (c :: text) = .char '\r' :: .char '\n' :: addReturns text := by
          simp [addReturns, hc]
        -- the first row is empty, and holds a carriage return then
        rw [hreturns, hc, rows_lineFeed, rows_cons (by decide), rows_lineFeed]
        exact .cons (.inr rfl) ih
      · have hreturns : addReturns (c :: text) = c :: addReturns text := by
          simp [addReturns, hc]
        rw [hreturns, rows_cons hc, rows_cons hc]
        generalize rows text = lines at ih
        generalize rows (addReturns text) = others at ih
        cases ih with
        | nil => exact .nil
        | cons hrow hrows => exact .cons (hrow.cons c) hrows

/-! ## Layouts -/

/-- The second of two texts is the first in another layout. -/
inductive Relaid (text other : Text) : Prop
  /-- There is a carriage return in front of every line feed. -/
  | returns : other = withReturns text → Relaid text other
  /-- Blanks, tabs and carriage returns are put to the ends of rows or taken off them. -/
  | margins : List.Forall₂ SameInside (rows text.toList) (rows other.toList) → Relaid text other
  /-- Other rows stand above the first one that opens a block, none of which opens one. -/
  | above {above above' below : List (List CodePoint)} {opening : List CodePoint} :
      rows text.toList = above ++ opening :: below → rows other.toList = above' ++ opening :: below →
        Opens opening → (∀ row ∈ above, ¬Opens row) → (∀ row ∈ above', ¬Opens row) → Relaid text other
  /-- Something else stands behind the row that closes the block. -/
  | below {above inside below below' : List (List CodePoint)} {opening closing : List CodePoint} :
      rows text.toList = above ++ opening :: (inside ++ closing :: below) →
        rows other.toList = above ++ opening :: (inside ++ closing :: below') →
          (∀ row ∈ above, ¬Opens row) → Opens opening → (∀ row ∈ inside, ¬Closes row) → Closes closing →
            Relaid text other

/-- The block holds the same lines in every layout. -/
theorem Relaid.blockLines_eq {text other : Text} (h : Relaid text other) : blockLines other = blockLines text := by
  cases h with
  | returns hother =>
      have hrows : List.Forall₂ SameInside (rows text.toList) (rows other.toList) := by
        rw [hother]
        exact (isReturned_rows_addReturns text.toList).imp fun _ _ hrow => hrow.sameInside
      exact blockLines_eq_of_sameInside hrows
  | margins hrows => exact blockLines_eq_of_sameInside hrows
  | above htext hother hopening habove habove' =>
      rw [blockLines_of_opening hother habove' hopening, blockLines_of_opening htext habove hopening]
  | @below above inside below below' opening closing htext hother habove hopening hinside hclosing =>
      have hcloses : ∀ {lines : List (List CodePoint)}, ∀ row ∈ (closing :: lines).head?, Closes row := by
        intro lines row hrow
        rw [List.head?_cons, Option.mem_some] at hrow
        exact hrow ▸ hclosing
      have hblock : HasBlock text inside := .opened htext habove hopening hinside hcloses
      have hblock' : HasBlock other inside := .opened hother habove hopening hinside hcloses
      rw [hblock'.blockLines_eq, hblock.blockLines_eq]

/-- What a text says about itself does not depend on its layout: it is what the rows of its block say, if of each
directive the last one counts. -/
theorem ofText_relaid_and_lastOf :
    (∀ text other, Relaid text other → Metadata.ofText other = Metadata.ofText text) ∧
      ∀ text, (∃ block, HasBlock text block) ∧
        ∀ block, HasBlock text block → Metadata.ofText text = Metadata.lastOf (block.map trimmed) := by
  refine ⟨fun text other h => ?_, fun text => ⟨exists_hasBlock text, fun block hblock => ?_⟩⟩
  · rw [Metadata.ofText, Metadata.ofText, DirectiveTable.parse, DirectiveTable.parse, h.blockLines_eq]
  · rw [Metadata.ofText, DirectiveTable.parse, hblock.blockLines_eq, Metadata.foldl_step_eq_lastOf]

/-- A fixture with a margin in front of its comment, two directives for tags, and a directive where its block ends. -/
def narrowFixture : Text :=
  "// :name:\n\t/* :name: a */ b\n:tags: one\n :tags:  two\tthree 4\n:should_fail_because:\n:description: */\n"

/-- The rows in the block of that fixture. -/
def narrowBlock : List (List CodePoint) :=
  [(":tags: one" : Text).toList, (" :tags:  two\tthree 4" : Text).toList, (":should_fail_because:" : Text).toList]

/-- The last tags count, an empty reason is a reason, and the row that closes the block is not read. -/
theorem ofText_withReturns_narrowFixture :
    Relaid narrowFixture (withReturns narrowFixture) ∧ HasBlock narrowFixture narrowBlock ∧
      Metadata.ofText (withReturns narrowFixture) = ⟨"", ["two\tthree", "4"], true, some ""⟩ := by
  have hrelaid : Relaid narrowFixture (withReturns narrowFixture) := .returns rfl
  have hrows : rows narrowFixture.toList =
      [("// :name:" : Text).toList] ++ ("\t/* :name: a */ b" : Text).toList ::
        (narrowBlock ++ [(":description: */" : Text).toList, []]) := by decide +kernel
  have hblock : HasBlock narrowFixture narrowBlock :=
    .opened hrows (by decide) (by decide) (by decide) (by decide)
  have hlast := (ofText_relaid_and_lastOf.2 narrowFixture).2 narrowBlock hblock
  refine ⟨hrelaid, hblock, ?_⟩
  rw [ofText_relaid_and_lastOf.1 narrowFixture (withReturns narrowFixture) hrelaid, hlast]
  decide

end Conformance.Fixture
