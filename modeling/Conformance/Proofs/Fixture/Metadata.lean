import Conformance.Proofs.Fixture.Directive
import Mathlib.Data.List.Perm.Basic

/-!
# Metadata that was written down

A header written as a block of directives is read back as what was written: neither the two kinds of
trimming nor the search for the ends of the block nor the cutting into tags takes anything away from a
value, and the directives can stand in any order.

Main results:

- `blockLines_withBlock`: the block of a text with a written header is its directives.
- `ofText_withBlock`: the metadata of such a text.
-/

namespace Conformance.Fixture

open Text

/-! ## What a directive can carry -/

/-- A value that the line of a directive can carry: it stays on the line and inside the comment, and
nothing is trimmed off its ends. -/
structure IsValue (value : Text) : Prop where
  oneLine : .char '\n' ∉ value.toList
  inComment : ¬Closes value.toList
  first : ∀ c ∈ value.toList.head?, isLineMargin c = false
  last : ∀ c ∈ value.toList.getLast?, isLineMargin c = false

/-- A tag: a value of one word. -/
structure IsTag (tag : Text) : Prop extends IsValue tag where
  nonempty : tag.toList ≠ []
  oneWord : .char ' ' ∉ tag.toList

instance (value : Text) : Decidable (IsValue value) :=
  decidable_of_iff
    (.char '\n' ∉ value.toList ∧ ¬Closes value.toList ∧ (∀ c ∈ value.toList.head?, isLineMargin c = false) ∧
      ∀ c ∈ value.toList.getLast?, isLineMargin c = false)
    ⟨fun ⟨oneLine, inComment, first, last⟩ => ⟨oneLine, inComment, first, last⟩,
      fun h => ⟨h.oneLine, h.inComment, h.first, h.last⟩⟩

instance (tag : Text) : Decidable (IsTag tag) :=
  decidable_of_iff (IsValue tag ∧ tag.toList ≠ [] ∧ .char ' ' ∉ tag.toList)
    ⟨fun ⟨value, nonempty, oneWord⟩ => ⟨value, nonempty, oneWord⟩,
      fun h => ⟨h.toIsValue, h.nonempty, h.oneWord⟩⟩

theorem isValueMargin_eq_false {c : CodePoint} (h : isLineMargin c = false) : isValueMargin c = false := by
  simp only [isLineMargin, isValueMargin, Bool.or_eq_false_iff] at h ⊢
  exact h.1.1

/-- A comment does not end across a blank. -/
theorem not_closes_append_blank {front tail : List CodePoint} (hfront : ¬Closes front) (htail : ¬Closes tail) :
    ¬Closes (front ++ .char ' ' :: tail) := by
  have hblank : ¬Closes (.char ' ' :: tail) := by
    rw [Closes, List.infix_cons_iff]
    rintro (hbegins | hinside)
    · exact absurd (List.cons_prefix_cons.mp hbegins).1 (by decide)
    · exact htail hinside
  rw [Closes, List.infix_append_iff]
  rintro (h | h | ⟨left, right, hmark, hleft, hright⟩)
  · exact hfront h
  · exact hblank h
  · -- the part behind the cut is empty, for it does not begin with a blank
    cases right with
    | nil => exact hfront (by rw [Closes, hmark, List.append_nil]; exact hleft.isInfix)
    | cons c right =>
        have hc : c = .char ' ' := (List.cons_prefix_cons.mp hright).1
        have hmem : .char ' ' ∈ ("*/" : Text).toList := by
          rw [hmark, hc]
          exact List.mem_append_right _ List.mem_cons_self
        exact absurd hmem (by decide)

/-- Two values with a blank between them are one value. -/
theorem IsValue.append {front tail : Text} (hfront : IsValue front) (htail : IsValue tail)
    (hfront' : front.toList ≠ []) (htail' : tail.toList ≠ []) : IsValue (front ++ (" " ++ tail)) where
  oneLine := by simp [toList_append, hfront.oneLine, htail.oneLine]
  inComment := not_closes_append_blank hfront.inComment htail.inComment
  first := by
    rw [toList_append, List.head?_append_of_ne_nil _ hfront']
    exact hfront.first
  last := by
    rw [toList_append, toList_append, ← List.append_assoc, List.getLast?_append_of_ne_nil _ htail']
    exact htail.last

/-- Tags with blanks between them. -/
def joined (tags : List Text) : Text :=
  Text.intercalate " " tags

theorem joined_singleton (tag : Text) : joined [tag] = tag := by
  simp [joined, Text.intercalate]

theorem joined_cons_cons (tag next : Text) (tags : List Text) :
    joined (tag :: next :: tags) = tag ++ (" " ++ joined (next :: tags)) := by
  simp only [joined, Text.intercalate, List.map_cons, List.intercalate_cons_cons, List.append_assoc]
  rfl

/-- Tags with blanks between them are one value, which is empty only if there are none. -/
theorem isValue_joined {tags : List Text} (h : ∀ tag ∈ tags, IsTag tag) :
    IsValue (joined tags) ∧ (tags ≠ [] → (joined tags).toList ≠ []) := by
  induction tags with
  | nil =>
      have hempty : joined [] = ⟨[]⟩ := rfl
      rw [hempty]
      exact ⟨⟨by simp, by decide, by simp, by simp⟩, fun h => absurd rfl h⟩
  | cons tag tags ih =>
      have htag : IsTag tag := h tag List.mem_cons_self
      cases tags with
      | nil =>
          rw [joined_singleton]
          exact ⟨htag.toIsValue, fun _ => htag.nonempty⟩
      | cons next tags =>
          obtain ⟨hvalue, hne⟩ := ih fun t ht => h t (List.mem_cons_of_mem _ ht)
          rw [joined_cons_cons]
          refine ⟨htag.toIsValue.append hvalue htag.nonempty (hne (by simp)), fun _ => ?_⟩
          simp [toList_append, htag.nonempty]

/-! ## One directive -/

/-- The line of a directive. -/
def directive (start value : Text) : Text :=
  start ++ (" " ++ value)

section Directive

variable {start value : Text}

/-- Trimming the line of a directive leaves the text that it begins with. -/
theorem trimmed_directive (start value : Text) (hne : start.toList ≠ [])
    (hfirst : ∀ c ∈ start.toList.head?, isLineMargin c = false)
    (hlast : ∀ c ∈ start.toList.getLast?, isLineMargin c = false) :
    trimmed (directive start value).toList =
      start.toList ++ trimEnd isLineMargin (.char ' ' :: value.toList) := by
  have hbegin : ∀ c ∈ (directive start value).toList.head?, isLineMargin c = false := by
    rw [directive, toList_append, List.head?_append_of_ne_nil _ hne]
    exact hfirst
  rw [trimmed, trim, dropWhile_eq_self hbegin]
  exact trimEnd_append hlast

/-- The two kinds of trimming leave the value. -/
theorem trim_trimEnd_blank (h : IsValue value) :
    trim isValueMargin (trimEnd isLineMargin (.char ' ' :: value.toList)) = value.toList := by
  by_cases hempty : value.toList = []
  · rw [hempty]
    decide
  · have hlast : ∀ c ∈ (.char ' ' :: value.toList).getLast?, isLineMargin c = false := by
      rw [List.getLast?_cons_of_ne_nil hempty]
      exact h.last
    rw [trimEnd_eq_self hlast, trim, List.dropWhile_cons_of_pos (by decide)]
    exact trim_eq_self (fun c hc => isValueMargin_eq_false (h.first c hc))
      fun c hc => isValueMargin_eq_false (h.last c hc)

theorem value_trimEnd (h : IsValue value) :
    Metadata.value (trimEnd isLineMargin (.char ' ' :: value.toList)) = value := by
  rw [Metadata.value, trim_trimEnd_blank h]

end Directive

section Words

variable {tags : List Text}

/-- Tags that were joined come apart as they were. -/
theorem words_trimEnd_joined (h : ∀ tag ∈ tags, IsTag tag) :
    Metadata.words (trimEnd isLineMargin (.char ' ' :: (joined tags).toList)) = tags := by
  have hwhole : ∀ tag ∈ tags, trim isValueMargin tag.toList = tag.toList := fun tag htag =>
    trim_eq_self (fun c hc => isValueMargin_eq_false ((h tag htag).first c hc))
      fun c hc => isValueMargin_eq_false ((h tag htag).last c hc)
  rw [Metadata.words, trim_trimEnd_blank (isValue_joined h).1]
  cases tags with
  | nil => decide
  | cons tag rest =>
      have hsplit : (joined (tag :: rest)).toList.splitOn (.char ' ') = (tag :: rest).map toList := by
        refine List.splitOn_intercalate _ ?_ (by simp)
        rintro l hl
        obtain ⟨t, ht, rfl⟩ := List.mem_map.mp hl
        exact (h t ht).oneWord
      have htrim : ((tag :: rest).map toList).map (trim isValueMargin) = (tag :: rest).map toList := by
        rw [List.map_map]
        exact List.map_congr_left hwhole
      have hkept : ((tag :: rest).map toList).filter (!·.isEmpty) = (tag :: rest).map toList := by
        refine List.filter_eq_self.mpr fun l hl => ?_
        obtain ⟨t, ht, rfl⟩ := List.mem_map.mp hl
        simpa using (h t ht).nonempty
      rw [hsplit, htrim, hkept, List.map_map]
      exact List.map_id _

end Words

/-! ## The step of each directive -/

section Step

variable {m : Metadata} {value : Text} {tags : List Text}

theorem step_description (h : IsValue value) :
    Metadata.table.step m (trimmed (directive Metadata.descriptionStart value).toList) =
      { m with description := value } := by
  rw [trimmed_directive Metadata.descriptionStart value (by decide) (by decide) (by decide)]
  conv_rhs => rw [← value_trimEnd h]
  rfl

theorem step_reason (h : IsValue value) :
    Metadata.table.step m (trimmed (directive Metadata.reasonStart value).toList) =
      { m with shouldFail := true, reason := some value } := by
  rw [trimmed_directive Metadata.reasonStart value (by decide) (by decide) (by decide)]
  conv_rhs => rw [← value_trimEnd h]
  rfl

theorem step_tags (h : ∀ tag ∈ tags, IsTag tag) :
    Metadata.table.step m (trimmed (directive Metadata.tagsStart (joined tags)).toList) =
      { m with tags := tags } := by
  rw [trimmed_directive Metadata.tagsStart (joined tags) (by decide) (by decide) (by decide)]
  conv_rhs => rw [← words_trimEnd_joined h]
  rfl

end Step

/-! ## Rows of a written text -/

/-- Lines, each ended by a line feed. -/
def lines (rows : List Text) : Text :=
  Text.join (rows.map (· ++ "\n"))

theorem rows_lines_append {written : List Text} (rest : Text) (h : ∀ row ∈ written, .char '\n' ∉ row.toList) :
    rows (lines written ++ rest).toList = written.map toList ++ rows rest.toList := by
  induction written with
  | nil => rfl
  | cons row written ih =>
      obtain ⟨hrow, hrest⟩ := List.forall_mem_cons.mp h
      have hlist : (lines (row :: written) ++ rest).toList =
          row.toList ++ .char '\n' :: (lines written ++ rest).toList := by
        simp [lines, Text.join]
      rw [hlist, rows, List.splitOn_append_cons_self_of_not_mem hrow, ← rows, ih hrest]
      rfl

/-! ## Written headers -/

/-- The directives of a header. -/
def directives (description : Text) (reason? : Option Text) (tags : List Text) : List Text :=
  directive Metadata.descriptionStart description ::
    (reason?.toList.map (directive Metadata.reasonStart) ++ [directive Metadata.tagsStart (joined tags)])

/-- The text that the first line of a block begins with. -/
def nameStart : Text := "/* :name:"

/-- A text with a block of directives below other lines and above a body. -/
def withBlock (preface : List Text) (name : Text) (block : List Text) (body : Text) : Text :=
  lines (preface ++ directive nameStart name :: (block ++ [("*/" : Text)])) ++ body

/-- The line that a block opens with begins a comment and names the fixture, whatever the name is. -/
theorem opens_name (name : Text) : Opens (directive nameStart name).toList := by
  have hcomment : ("/*" : Text).toList <+: nameStart.toList := by decide
  have hname : (":name:" : Text).toList <:+: nameStart.toList := ⟨("/* " : Text).toList, [], by decide⟩
  rw [Opens, trimmed_directive nameStart name (by decide) (by decide) (by decide)]
  exact ⟨hcomment.trans (List.prefix_append ..), hname.trans (List.prefix_append ..).isInfix⟩

section Written

variable {preface block tags : List Text} {name description body : Text} {reason? : Option Text}

/-- A line of a header is that of one of the three directives. -/
theorem mem_directives_iff {line : Text} :
    line ∈ directives description reason? tags ↔
      line = directive Metadata.descriptionStart description ∨
        (∃ reason ∈ reason?, line = directive Metadata.reasonStart reason) ∨
        line = directive Metadata.tagsStart (joined tags) := by
  simp only [directives, List.mem_cons, List.mem_append, List.mem_map, Option.mem_toList, Option.mem_def,
    List.not_mem_nil, or_false, eq_comm]

/-- A directive with a value stays on its line and inside the block. -/
theorem IsValue.directive_inside {start value : Text} (h : IsValue value)
    (hline : .char '\n' ∉ start.toList) (hinside : ¬Closes start.toList) :
    .char '\n' ∉ (directive start value).toList ∧ ¬Closes (directive start value).toList := by
  refine ⟨?_, not_closes_append_blank hinside h.inComment⟩
  simp [directive, toList_append, hline, h.oneLine]

/-- So do all lines of a header. -/
theorem inside_of_mem_directives (hdescription : IsValue description)
    (hreason : ∀ reason ∈ reason?, IsValue reason) (htags : ∀ tag ∈ tags, IsTag tag) {line : Text}
    (h : line ∈ directives description reason? tags) :
    .char '\n' ∉ line.toList ∧ ¬Closes line.toList := by
  rcases mem_directives_iff.mp h with rfl | ⟨reason, hr, rfl⟩ | rfl
  · exact hdescription.directive_inside (by decide) (by decide)
  · exact (hreason reason hr).directive_inside (by decide) (by decide)
  · exact (isValue_joined htags).1.directive_inside (by decide) (by decide)

/-- The block of a text with a written header is its directives, whatever stands below. -/
theorem blockLines_withBlock (hpreface : ∀ row ∈ preface, .char '\n' ∉ row.toList ∧ ¬Opens row.toList)
    (hname : .char '\n' ∉ name.toList)
    (hblock : ∀ line ∈ block, .char '\n' ∉ line.toList ∧ ¬Closes line.toList) :
    blockLines (withBlock preface name block body) = block.map fun line => trimmed line.toList := by
  have hopening : .char '\n' ∉ (directive nameStart name).toList := by
    have hstart : .char '\n' ∉ nameStart.toList := by decide
    simp [directive, toList_append, hstart, hname]
  have hlines : ∀ row ∈ preface ++ directive nameStart name :: (block ++ [("*/" : Text)]),
      .char '\n' ∉ row.toList := by
    simp only [List.mem_append, List.mem_cons, List.not_mem_nil, or_false]
    rintro row (hrow | rfl | hrow | rfl)
    · exact (hpreface row hrow).1
    · exact hopening
    · exact (hblock row hrow).1
    · decide
  have hrows := rows_lines_append body hlines
  rw [← withBlock] at hrows
  simp only [List.map_append, List.map_cons, List.map_nil, List.append_assoc, List.cons_append,
    List.nil_append] at hrows
  have hblock : HasBlock (withBlock preface name block body) (block.map toList) := by
    refine .opened hrows ?_ (opens_name name) ?_ ?_
    · intro row hrow
      obtain ⟨line, hline, rfl⟩ := List.mem_map.mp hrow
      exact (hpreface line hline).2
    · intro row hrow
      obtain ⟨line, hline, rfl⟩ := List.mem_map.mp hrow
      exact (hblock line hline).2
    · intro row hrow
      rw [List.head?_cons, Option.mem_some] at hrow
      exact hrow ▸ List.infix_refl _
  rw [hblock.blockLines_eq, List.map_map]
  rfl

/-- Directives of a header have their effects on different parts of the metadata. -/
theorem step_comm (hdescription : IsValue description) (hreason : ∀ reason ∈ reason?, IsValue reason)
    (htags : ∀ tag ∈ tags, IsTag tag) {a b : Text} (ha : a ∈ directives description reason? tags)
    (hb : b ∈ directives description reason? tags) (m : Metadata) :
    Metadata.table.step (Metadata.table.step m (trimmed a.toList)) (trimmed b.toList) =
      Metadata.table.step (Metadata.table.step m (trimmed b.toList)) (trimmed a.toList) := by
  rw [mem_directives_iff] at ha hb
  cases reason? with
  | none =>
      simp only [Option.not_mem_none, false_and, exists_false, false_or] at ha hb
      rcases ha with rfl | rfl <;> rcases hb with rfl | rfl <;>
        simp only [step_description hdescription, step_tags htags]
  | some reason =>
      simp only [Option.mem_some_iff, exists_eq_left'] at ha hb
      rcases ha with rfl | rfl | rfl <;> rcases hb with rfl | rfl | rfl <;>
        simp only [step_description hdescription, step_reason (hreason reason rfl), step_tags htags]

/-- A header is read back as it was written, wherever it stands, in whatever order its directives stand,
and whatever stands around it. -/
theorem ofText_withBlock (hpreface : ∀ row ∈ preface, .char '\n' ∉ row.toList ∧ ¬Opens row.toList)
    (hname : .char '\n' ∉ name.toList) (hdescription : IsValue description)
    (hreason : ∀ reason ∈ reason?, IsValue reason) (htags : ∀ tag ∈ tags, IsTag tag)
    (horder : block.Perm (directives description reason? tags)) :
    Metadata.ofText (withBlock preface name block body) =
      ⟨description, tags, reason?.isSome, reason?⟩ := by
  have hblock : ∀ line ∈ block, .char '\n' ∉ line.toList ∧ ¬Closes line.toList := fun line hline =>
    inside_of_mem_directives hdescription hreason htags (horder.mem_iff.mp hline)
  rw [Metadata.ofText, DirectiveTable.parse, blockLines_withBlock hpreface hname hblock, List.foldl_map,
    horder.foldl_eq' fun a ha b hb m => step_comm hdescription hreason htags (horder.mem_iff.mp ha)
      (horder.mem_iff.mp hb) m]
  cases reason? with
  | none => simp [directives, step_description hdescription, step_tags htags, Metadata.empty]
  | some reason =>
      simp [directives, step_description hdescription, step_tags htags, step_reason (hreason reason rfl),
        Metadata.empty]

/-- An empty reason is a reason, a value can look like another directive, a name can end a comment and a tag
can stand twice and hold a tab. -/
theorem ofText_withBlock_backwards :
    Metadata.ofText
      (withBlock ["// :name: adder", "/* by hand */"] "a */ b"
        [":tags: 23.2 a\tb 23.2", ":should_fail_because: ", ":description: :tags: /* none"]
        "module m;\n:description: body\n") =
      ⟨":tags: /* none", ["23.2", "a\tb", "23.2"], true, some ""⟩ := by
  have horder :
      [(":tags: 23.2 a\tb 23.2" : Text), ":should_fail_because: ", ":description: :tags: /* none"].Perm
        (directives ":tags: /* none" (some "") ["23.2", "a\tb", "23.2"]) := by decide
  exact ofText_withBlock (by decide) (by decide) (by decide) (by decide) (by decide) horder

end Written

end Conformance.Fixture
