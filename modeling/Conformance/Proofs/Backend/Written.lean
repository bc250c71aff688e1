import Conformance.Proofs.Backend.Streams
import Conformance.Proofs.Text.Letters

/-!
# Messages as tools write them

A message is written on a line of its own: a severity and a code behind a percent sign, if the tool puts them in front
of the file, then the file, the line, perhaps the column, perhaps a severity, and the message.  What is written so is
read back: no part of it is taken for another one.

Main results:

- `ToolMessage.read?_written`: a written message is read back.
- `ToolMessage.IsWritable.finding_eq`: the diagnostic that it stands for.
- `readDiagnostics_written`: the diagnostics in an output of written messages.
-/

namespace Conformance.Backend

open Text

namespace ToolMessage

/-! ## Writing -/

/-- A severity with a code behind a percent sign. -/
def labelText (code : List CodePoint) : Option (List CodePoint) → List CodePoint
  | some label => .char '%' :: (label ++ code ++ [.char ':', .char ' '])
  | none => []

/-- A column and the colon behind it. -/
def columnText : Option (List CodePoint) → List CodePoint
  | some column => column ++ [.char ':']
  | none => []

/-- A severity and the colon behind it. -/
def severityText : Option (List CodePoint) → List CodePoint
  | some severity => severity ++ [.char ':', .char ' ']
  | none => []

/-- Where a message is about: a file, a line and perhaps a column, each with a colon behind it. -/
def placeText (m : ToolMessage) : List CodePoint :=
  m.file ++ .char ':' :: (m.line ++ .char ':' :: columnText m.column)

/-- A message as it is written on a line. -/
def written (code : List CodePoint) (m : ToolMessage) : List CodePoint :=
  labelText code m.label ++ m.placeText ++ .char ' ' :: (severityText m.severity ++ m.message)

/-! ## What can be written -/

/-- A text stays on one line. -/
def Unbroken (text : List CodePoint) : Prop :=
  ∀ c ∈ text, isLineBreak c = false

instance (text : List CodePoint) : Decidable (Unbroken text) :=
  inferInstanceAs (Decidable (∀ c ∈ text, isLineBreak c = false))

/-- The name of a file that can stand in front of a place. -/
structure IsFileName (file : List CodePoint) : Prop where
  unbroken : Unbroken file
  noColon : .char ':' ∉ file
  begins : ∃ c ∈ file.head?, isBlank c = false ∧ c ≠ .char '%'

/-- A number that can be read: at least one digit, nothing else, and not too many of them. -/
structure IsNumber (number : List CodePoint) : Prop where
  areDigits : AreDigits number
  short : number.length ≤ Decimal.digitLimit

/-- A text begins with a severity: one of the words up to case, then perhaps blanks, then a colon. -/
def BeginsWithSeverity (text : List CodePoint) : Prop :=
  ∃ word ∈ severities, ∃ found blanks rest, text = found ++ blanks ++ .char ':' :: rest ∧ IsWord word found ∧
    ∀ c ∈ blanks, isBlank c = true

/-- A message that can be written: the severities are words in letters of either case, the code and the file stay in
front of their colons, the numbers are numbers, nothing is trimmed off the message itself, and it does not begin with a
severity unless there is one in front of it. -/
structure IsWritable (code : List CodePoint) (m : ToolMessage) : Prop where
  label : ∀ label ∈ m.label, ∃ word ∈ labels, Spells word label
  codeUnbroken : Unbroken code
  codeNoColon : .char ':' ∉ code
  file : IsFileName m.file
  line : IsNumber m.line
  column : ∀ column ∈ m.column, IsNumber column
  severity : ∀ severity ∈ m.severity, ∃ word ∈ severities, Spells word severity
  messageUnbroken : Unbroken m.message
  trimmed : trimBlanks m.message = m.message
  plain : m.severity = none → ¬BeginsWithSeverity m.message

variable {code front file number rest text : List CodePoint} {label severity column : Option (List CodePoint)}
  {m : ToolMessage} {source : Option Text}

/-! ## Reading the parts -/

theorem splitColon?_eq (h : .char ':' ∉ front) (rest : List CodePoint) :
    splitColon? (front ++ .char ':' :: rest) = some (front, rest) := by
  have hall : ∀ c ∈ front, (c != .char ':') = true := fun c hc => bne_iff_ne.mpr fun heq => h (heq ▸ hc)
  unfold splitColon?
  rw [List.dropWhile_append_of_pos hall, List.takeWhile_append_of_pos hall]
  simp

theorem splitNumber?_eq (h : AreDigits number) (rest : List CodePoint) :
    splitNumber? (number ++ .char ':' :: rest) = some (number, rest) := by
  obtain ⟨c, others, rfl⟩ := List.exists_cons_of_ne_nil h.1
  have hcolon : isDigit (.char ':') = false := by decide
  unfold splitNumber?
  rw [List.dropWhile_append_of_pos h.2, List.takeWhile_append_of_pos h.2,
    List.dropWhile_cons_of_neg (by simp [hcolon]), List.takeWhile_cons_of_neg (by simp [hcolon]), List.append_nil]
  rfl

/-- Without a digit in front there is no number. -/
theorem splitNumber?_eq_none (h : ∀ c ∈ text.head?, isDigit c = false) : splitNumber? text = none := by
  have hnone : text.takeWhile isDigit = [] := by
    cases text with
    | nil => rfl
    | cons c text => exact List.takeWhile_cons_of_neg (by simp [h c rfl])
  unfold splitNumber?
  rw [hnone]

/-! ### Severities -/

theorem toldApart_severities : ToldApart severities where
  first := List.forall_mem_cons.mpr ⟨⟨'f', _, rfl, by decide⟩, List.forall_mem_cons.mpr ⟨⟨'e', _, rfl, by decide⟩,
    List.forall_mem_singleton.mpr ⟨'w', _, rfl, by decide⟩⟩⟩
  different := by decide

theorem mem_severities_of_mem_labels : ∀ word ∈ labels, word ∈ severities := by
  decide

theorem toldApart_labels : ToldApart labels where
  first word hword := toldApart_severities.first word (mem_severities_of_mem_labels word hword)
  different word hword other hother :=
    toldApart_severities.different word (mem_severities_of_mem_labels word hword) other
      (mem_severities_of_mem_labels other hother)

theorem isLower_of_mem_severities : ∀ word ∈ severities, ∀ c ∈ word, c.isLower = true := by
  have hall : (severities.all fun word => word.all Char.isLower) = true := by decide
  simpa only [List.all_eq_true] using hall

/-- A severity in front of a file is split off with its code. -/
theorem splitLabel?_eq {word : List Char} {label : List CodePoint} (hword : word ∈ labels) (h : Spells word label)
    (hcode : .char ':' ∉ code) (hrest : ∀ c ∈ rest.head?, isBlank c = false) :
    splitLabel? (labelText code (some label) ++ rest) = some (label, rest) := by
  have htext : labelText code (some label) ++ rest =
      .char '%' :: (label ++ (code ++ .char ':' :: .char ' ' :: rest)) := by simp [labelText]
  rw [htext, splitLabel?]
  simp only [toldApart_labels.splitAnyWord?_eq hword h.isWord, splitColon?_eq hcode, Option.map_some]
  rw [List.dropWhile_cons_of_pos (by decide), dropWhile_eq_self hrest]

/-- A text that does not begin with a percent sign has no severity in front of a file. -/
theorem splitLabel?_eq_none {c : CodePoint} (h : c ≠ .char '%') : splitLabel? (c :: text) = none := by
  unfold splitLabel?
  split
  · rename_i heq
    exact absurd (List.cons.inj heq).1 h
  · rfl

/-- A severity in front of a message is split off with the colon and the blanks behind it. -/
theorem splitSeverity_eq {word : List Char} {severity blanks : List CodePoint} (hword : word ∈ severities)
    (h : IsWord word severity) (hblanks : ∀ c ∈ blanks, isBlank c = true) (rest : List CodePoint) :
    splitSeverity (severity ++ (blanks ++ .char ':' :: rest)) = (some severity, rest.dropWhile isBlank) := by
  have hcolon : (blanks ++ CodePoint.char ':' :: rest).dropWhile isBlank = .char ':' :: rest := by
    rw [List.dropWhile_append_of_pos hblanks]
    exact List.dropWhile_cons_of_neg (by decide)
  unfold splitSeverity
  simp only [toldApart_severities.splitAnyWord?_eq hword h, hcolon]

/-- A text that does not begin with a severity is all message. -/
theorem splitSeverity_of_plain (h : ¬BeginsWithSeverity text) : splitSeverity text = (none, text) := by
  unfold splitSeverity
  split
  · rename_i found rest hsplit
    split
    · rename_i more hmore
      obtain ⟨word, hword, hfound⟩ := List.exists_of_findSome?_eq_some hsplit
      obtain ⟨rfl, hisWord⟩ := splitWord?_eq_some_iff.mp hfound
      have hrest := rest.takeWhile_append_dropWhile (p := isBlank)
      rw [hmore] at hrest
      refine absurd ⟨word, hword, found, rest.takeWhile isBlank, more, ?_, hisWord, ?_⟩ h
      · rw [List.append_assoc, hrest]
      · exact List.all_eq_true.mp List.all_takeWhile
    · rfl
  · rfl

/-- Whether a text begins with a severity is told by what is split off it. -/
theorem beginsWithSeverity_iff : BeginsWithSeverity text ↔ (splitSeverity text).1 ≠ none := by
  constructor
  · rintro ⟨word, hword, found, blanks, rest, rfl, hisWord, hblanks⟩
    rw [List.append_assoc, splitSeverity_eq hword hisWord hblanks]
    exact Option.some_ne_none found
  · intro hsplit
    by_contra hplain
    exact hsplit (by rw [splitSeverity_of_plain hplain])

instance (text : List CodePoint) : Decidable (BeginsWithSeverity text) :=
  decidable_of_iff _ beginsWithSeverity_iff.symm

/-! ## Reading a line -/

/-- What stands behind the place of a message when the line has been trimmed. -/
def tailText (m : ToolMessage) : List CodePoint :=
  trimEnd isBlank (.char ' ' :: (severityText m.severity ++ m.message))

/-- A blank in front of a text does not matter. -/
theorem trim_blank_cons (text : List CodePoint) : trim isBlank (.char ' ' :: text) = trimBlanks text := by
  rw [trim, List.dropWhile_cons_of_pos (by decide), ← trim, trimBlanks]

/-- A severity and a message are told apart behind a place. -/
theorem IsWritable.splitSeverity_tailText (h : m.IsWritable code) :
    splitSeverity (m.tailText.dropWhile isBlank) = (m.severity, m.message) := by
  rw [tailText, dropWhile_trimEnd, trim_blank_cons]
  cases hseverity : m.severity with
  | none =>
      rw [severityText, List.nil_append, h.trimmed]
      exact splitSeverity_of_plain (h.plain hseverity)
  | some severity =>
      obtain ⟨word, hword, hspells⟩ := h.severity severity hseverity
      have htext : severityText (some severity) ++ m.message =
          severity ++ [.char ':'] ++ .char ' ' :: m.message := by simp [severityText]
      have hfirst : ∀ c ∈ (severity ++ [CodePoint.char ':'] ++ .char ' ' :: m.message).head?, isBlank c = false := by
        cases severity with
        | nil =>
            rintro c ⟨⟩
            decide
        | cons d severity =>
            rintro c ⟨⟩
            exact hspells.isBlank_eq_false (isLower_of_mem_severities word hword) d List.mem_cons_self
      have hlast : ∀ c ∈ (severity ++ [CodePoint.char ':']).getLast?, isBlank c = false := by
        rw [List.getLast?_concat]
        rintro c ⟨⟩
        decide
      have hnone : ∀ c ∈ ([] : List CodePoint), isBlank c = true := nofun
      have hsplit := splitSeverity_eq hword hspells.isWord hnone (trimEnd isBlank (.char ' ' :: m.message))
      rw [dropWhile_trimEnd, trim_blank_cons, h.trimmed] at hsplit
      rw [htext, trimBlanks, trim, dropWhile_eq_self hfirst, trimEnd_append hlast, List.append_assoc]
      exact hsplit

/-- The place of a message ends in a colon. -/
theorem getLast?_placeText (m : ToolMessage) : m.placeText.getLast? = some (.char ':') := by
  unfold placeText columnText
  cases m.column with
  | none => rw [← List.cons_append, ← List.append_assoc, List.getLast?_concat]
  | some column =>
      rw [← List.cons_append, ← List.append_assoc, ← List.cons_append, ← List.append_assoc, List.getLast?_concat]

/-- What stands behind a place begins with a blank, if there is anything. -/
theorem isDigit_of_head?_tailText : ∀ c ∈ m.tailText.head?, isDigit c = false := by
  have hprefix : m.tailText <+: _ := trimEnd_prefix isBlank _
  cases htail : m.tailText with
  | nil => exact nofun
  | cons c tail =>
      rw [htail] at hprefix
      obtain ⟨rfl, -⟩ := List.cons_prefix_cons.mp hprefix
      rintro c ⟨⟩
      decide

/-- A written place is read. -/
theorem IsWritable.readPlaced?_eq (h : m.IsWritable code) (label : Option (List CodePoint)) :
    readPlaced? label (m.placeText ++ m.tailText) = some { m with label := label } := by
  obtain ⟨c, hc, hblank, -⟩ := h.file.begins
  obtain ⟨rest, hfile⟩ := List.head?_eq_some_iff.mp hc
  have hhead : (m.file.head?.map isBlank).getD true = false := by simp [hfile, hblank]
  have hnumber : splitNumber? (columnText m.column ++ m.tailText) =
      m.column.map fun column => (column, m.tailText) := by
    cases hcolumn : m.column with
    | none => exact splitNumber?_eq_none isDigit_of_head?_tailText
    | some column =>
        rw [columnText, List.append_assoc, List.singleton_append, splitNumber?_eq (h.column column hcolumn).areDigits]
        rfl
  have htext : m.placeText ++ m.tailText =
      m.file ++ .char ':' :: (m.line ++ .char ':' :: (columnText m.column ++ m.tailText)) := by simp [placeText]
  rw [htext, readPlaced?]
  simp only [splitColon?_eq h.file.noColon, hhead, splitNumber?_eq h.line.areDigits, hnumber]
  cases m.column with
  | none => simp [columnText, h.splitSeverity_tailText]
  | some column => simp [h.splitSeverity_tailText]

/-- A line on which a message is written begins with no blank and ends behind the message. -/
theorem IsWritable.trimBlanks_written (h : m.IsWritable code) :
    trimBlanks (m.written code) = labelText code m.label ++ (m.placeText ++ m.tailText) := by
  obtain ⟨c, hc, hblank, -⟩ := h.file.begins
  obtain ⟨rest, hfile⟩ := List.head?_eq_some_iff.mp hc
  have hfirst : ∀ c ∈ (m.written code).head?, isBlank c = false := by
    unfold written labelText placeText
    cases m.label with
    | none =>
        rw [hfile]
        rintro d ⟨⟩
        exact hblank
    | some label =>
        rintro d ⟨⟩
        decide
  have hlast : ∀ c ∈ (labelText code m.label ++ m.placeText).getLast?, isBlank c = false := by
    rw [List.getLast?_append, getLast?_placeText]
    rintro c ⟨⟩
    decide
  rw [trimBlanks, trim, dropWhile_eq_self hfirst, written, trimEnd_append hlast, List.append_assoc, tailText]

/-- A written message is read back. -/
theorem read?_written (h : m.IsWritable code) : read? (trimBlanks (m.written code)) = some m := by
  obtain ⟨c, hc, hblank, hpercent⟩ := h.file.begins
  obtain ⟨rest, hfile⟩ := List.head?_eq_some_iff.mp hc
  have hplace : m.placeText ++ m.tailText = c :: (rest ++ .char ':' :: (m.line ++ .char ':' :: columnText m.column) ++
      m.tailText) := by simp [placeText, hfile]
  rw [h.trimBlanks_written]
  cases hlabel : m.label with
  | none =>
      rw [labelText, List.nil_append, read?, hplace, splitLabel?_eq_none hpercent, ← hplace, h.readPlaced?_eq, ← hlabel]
  | some label =>
      obtain ⟨word, hword, hspells⟩ := h.label label hlabel
      have hhead : ∀ c ∈ (m.placeText ++ m.tailText).head?, isBlank c = false := by
        rw [hplace]
        rintro d ⟨⟩
        exact hblank
      simp only [read?, splitLabel?_eq hword hspells h.codeNoColon hhead, h.readPlaced?_eq]
      rw [← hlabel]

/-! ## Diagnostics -/

/-- A message is a warning if its severity is spelled so, the one in front of the file before the one in front of the
message.  Any other message is an error. -/
def Warns (m : ToolMessage) : Prop :=
  ∃ severity ∈ m.label.or m.severity, Spells "warning".toList severity

instance (m : ToolMessage) : Decidable m.Warns :=
  inferInstanceAs (Decidable (∃ severity ∈ m.label.or m.severity, Spells "warning".toList severity))

/-- What a written message says: its text about its file, its line, and its column or zero. -/
def statement {Category : Type} (m : ToolMessage) (category : Category) : Diagnostic Category where
  message := .ofList m.message
  line := Decimal.numberOf m.line
  column := (m.column.map Decimal.numberOf).getD 0
  file := some (.ofList m.file)
  category := category

/-- The errors and warnings that a written message stands for: one error or one warning. -/
def diagnostics (m : ToolMessage) : List CompileError × List CompileWarning :=
  if m.Warns then ([], [m.statement .general]) else ([m.statement .other], [])

/-- A message is about a file with another name than the source. -/
def IsElsewhere (source : Option Text) (m : ToolMessage) : Prop :=
  ∀ s ∈ source, (Path.ofText (.ofList m.file)).name ≠ (Path.ofText s).name

theorem IsWritable.exists_severity (h : m.IsWritable code) {severity : List CodePoint}
    (hm : severity ∈ m.label.or m.severity) : ∃ word ∈ severities, Spells word severity := by
  cases hlabel : m.label with
  | none =>
      rw [hlabel] at hm
      exact h.severity severity hm
  | some label =>
      rw [hlabel] at hm
      obtain rfl := Option.some.inj hm
      obtain ⟨word, hword, hspells⟩ := h.label _ hlabel
      exact ⟨word, mem_severities_of_mem_labels word hword, hspells⟩

/-- The severity of a message decides whether it is a warning. -/
theorem IsWritable.isWarning_iff (h : m.IsWritable code) : m.isWarning = true ↔ m.Warns := by
  have hwarning : ("warning" : Text).toList = "warning".toList.map .char := rfl
  unfold isWarning Warns
  rw [beq_iff_eq, hwarning]
  cases hm : m.label.or m.severity with
  | none => exact iff_of_false (by decide) nofun
  | some severity =>
      obtain ⟨word, hword, hspells⟩ := h.exists_severity hm
      have hlower : ∀ word ∈ severities, Spells word severity → lower severity = word.map .char := fun word hword h =>
        h.lower_eq fun c hc => toNat_lt_of_isLower (isLower_of_mem_severities word hword c hc)
      rw [Option.getD_some]
      constructor
      · intro hsame
        rw [hlower word hword hspells] at hsame
        refine ⟨severity, rfl, ?_⟩
        have hinjective : Function.Injective CodePoint.char := fun _ _ => CodePoint.char.inj
        rwa [← hinjective.list_map hsame]
      · rintro ⟨_, ⟨⟩, hspells⟩
        exact hlower _ (by decide) hspells

theorem IsNumber.readInteger_eq (h : IsNumber number) :
    Decimal.readInteger (.ofList number) = .ok (Decimal.numberOf number : Int) :=
  Decimal.readInteger_eq_numberOf h.areDigits.1 h.areDigits.2 h.short

/-- What a written message stands for, if it is not about the source. -/
theorem IsWritable.finding_eq (h : m.IsWritable code) (hsource : m.IsElsewhere source) :
    m.finding source = .ok (if m.Warns then .inr (m.statement .general) else .inl (m.statement .other)) := by
  have hfile : m.namedFile source = some (.ofList m.file) := by
    unfold namedFile
    cases source with
    | none => rfl
    | some s => exact if_neg (hsource s rfl)
  have hcolumn : (m.column.map fun column => Decimal.readInteger (.ofList column)).getD (.ok 0) =
      .ok ((m.column.map Decimal.numberOf).getD 0 : Nat) := by
    cases hm : m.column with
    | none => rfl
    | some column => exact (h.column column hm).readInteger_eq
  unfold finding statement
  rw [h.line.readInteger_eq]
  simp only [hcolumn, h.trimmed, hfile, h.isWarning_iff]

/-! ## Lines -/

theorem unbroken_of_areDigits (h : AreDigits number) : Unbroken number := fun c hc =>
  isLineBreak_eq_false (Decimal.isBlank_of_isDigit (h.2 c hc))

theorem unbroken_of_spells {word : List Char} (hword : word ∈ severities) (h : Spells word text) : Unbroken text :=
  fun c hc => isLineBreak_eq_false (h.isBlank_eq_false (isLower_of_mem_severities word hword) c hc)

theorem unbroken_append (hfront : Unbroken front) (hrest : Unbroken rest) : Unbroken (front ++ rest) :=
  List.forall_mem_append.mpr ⟨hfront, hrest⟩

theorem unbroken_labelText (hlabel : ∀ l ∈ label, ∃ word ∈ labels, Spells word l) (hcode : Unbroken code) :
    Unbroken (labelText code label) := by
  cases label with
  | none => exact nofun
  | some label =>
      obtain ⟨word, hword, hspells⟩ := hlabel label rfl
      have hspelled := unbroken_of_spells (mem_severities_of_mem_labels word hword) hspells
      exact List.forall_mem_cons.mpr ⟨by decide, unbroken_append (unbroken_append hspelled hcode) (by decide)⟩

theorem unbroken_columnText (h : ∀ number ∈ column, IsNumber number) : Unbroken (columnText column) := by
  cases column with
  | none => exact nofun
  | some column => exact unbroken_append (unbroken_of_areDigits (h column rfl).areDigits) (by decide)

theorem unbroken_severityText (h : ∀ s ∈ severity, ∃ word ∈ severities, Spells word s) :
    Unbroken (severityText severity) := by
  cases severity with
  | none => exact nofun
  | some severity =>
      obtain ⟨word, hword, hspells⟩ := h severity rfl
      exact unbroken_append (unbroken_of_spells hword hspells) (by decide)

/-- A message is written on one line. -/
theorem IsWritable.unbroken_written (h : m.IsWritable code) : Unbroken (m.written code) := by
  have hcolon : isLineBreak (.char ':') = false := by decide
  have hblank : isLineBreak (.char ' ') = false := by decide
  have hplace : Unbroken m.placeText := unbroken_append h.file.unbroken <| List.forall_mem_cons.mpr ⟨hcolon,
    unbroken_append (unbroken_of_areDigits h.line.areDigits) <| List.forall_mem_cons.mpr ⟨hcolon,
      unbroken_columnText h.column⟩⟩
  exact unbroken_append (unbroken_append (unbroken_labelText h.label h.codeUnbroken) hplace) <|
    List.forall_mem_cons.mpr ⟨hblank, unbroken_append (unbroken_severityText h.severity) h.messageUnbroken⟩

/-- The output of a tool that writes one message. -/
theorem IsWritable.readDiagnostics_eq (h : m.IsWritable code) (hsource : m.IsElsewhere source) :
    readDiagnostics (.ofList (m.written code)) source = .ok m.diagnostics := by
  have hne : m.written code ≠ [] := by simp [written]
  unfold readDiagnostics diagnostics
  rw [breakLines_eq_of_unbroken hne h.unbroken_written, findingsOf, read?_written h]
  simp only [h.finding_eq hsource]
  by_cases hwarns : m.Warns
  · simp only [if_pos hwarns]
    rfl
  · simp only [if_neg hwarns]
    rfl

/-- A number of not too many digits is written by its digits. -/
theorem isNumber_toDigits {n : Nat} (h : (Nat.toDigits 10 n).length ≤ Decimal.digitLimit) :
    IsNumber ((Nat.toDigits 10 n).map .char) where
  areDigits := by
    refine ⟨by simp, fun c hc => ?_⟩
    obtain ⟨d, hd, rfl⟩ := List.mem_map.mp hc
    rw [isDigit, Decimal.digitValue?_char (Nat.isDigit_of_mem_toDigits (by decide) (by decide) hd), Option.isSome_some]
  short := by rwa [List.length_map]

end ToolMessage

open ToolMessage

/-- Messages that are written on lines are read back: a line on which a message is written gives exactly one diagnostic,
which is a warning if its severity is spelled so and an error otherwise, with the file, the line, the column or zero,
and the message; and an output of such lines gives the diagnostics of its lines in order.  A number of not too many
digits can be written by its digits, and is read as that number. -/
theorem readDiagnostics_written :
    (∀ code m source, IsWritable code m → m.IsElsewhere source →
      readDiagnostics (.ofList (m.written code)) source =
        .ok (if m.Warns then ([], [m.statement .general]) else ([m.statement .other], []))) ∧
    (∀ (messages : List (List CodePoint × ToolMessage)) (source : Option Text),
      (∀ p ∈ messages, IsWritable p.1 p.2 ∧ p.2.IsElsewhere source) →
      readDiagnostics (Text.intercalate "\n" (messages.map fun p => .ofList (p.2.written p.1))) source =
        .ok (messages.flatMap fun p => p.2.diagnostics.1, messages.flatMap fun p => p.2.diagnostics.2)) ∧
    ∀ n : Nat, (Nat.toDigits 10 n).length ≤ Decimal.digitLimit →
      IsNumber ((Nat.toDigits 10 n).map .char) ∧ Decimal.numberOf ((Nat.toDigits 10 n).map .char) = n := by
  refine ⟨fun code m source h hsource => h.readDiagnostics_eq hsource, fun messages source h => ?_,
    fun n h => ⟨isNumber_toDigits h, Decimal.numberOf_toDigits n⟩⟩
  have hlines : List.Forall₂ (fun text found => readDiagnostics text source = .ok found)
      (messages.map fun p => .ofList (p.2.written p.1)) (messages.map fun p => p.2.diagnostics) := by
    rw [List.forall₂_map_left_iff, List.forall₂_map_right_iff, List.forall₂_same]
    exact fun p hp => (h p hp).1.readDiagnostics_eq (h p hp).2
  have hread := readDiagnostics_intercalate hlines
  rwa [List.flatMap_map, List.flatMap_map] at hread

/-- A message with blanks, percent signs and numbers between colons in its file and its text. -/
def plainWarning : ToolMessage :=
  ⟨none, ("a b%.sv" : Text).toList, ("012" : Text).toList, some ("7" : Text).toList, some ("WarNing" : Text).toList,
    ("4:5: error: x" : Text).toList⟩

/-- A message behind the severity of its tool that speaks of a severity itself. -/
def labelledError : ToolMessage :=
  ⟨some ("Error" : Text).toList, ("top.sv" : Text).toList, ("3" : Text).toList, none, none,
    ("5: error in 100% of cases" : Text).toList⟩

/-- A message without text behind the severity of its tool. -/
def labelledWarning : ToolMessage :=
  ⟨some ("Warning" : Text).toList, ("top.sv" : Text).toList, ("3" : Text).toList, some ("14" : Text).toList, none, []⟩

theorem readDiagnostics_written_styles :
    readDiagnostics "a b%.sv:012:7: WarNing: 4:5: error: x" (some "/work/b%.sv") =
        .ok ([], [⟨"4:5: error: x", 12, 7, some "a b%.sv", .general⟩]) ∧
      readDiagnostics ("%Error: top.sv:3: 5: error in 100% of cases\n%Warning-WIDTH [2]: top.sv:3:14: ") none =
        .ok ([⟨"5: error in 100% of cases", 3, 0, some "top.sv", .other⟩], [⟨"", 3, 14, some "top.sv", .general⟩]) := by
  have hplain : IsWritable [] plainWarning :=
    { label := nofun
      codeUnbroken := nofun
      codeNoColon := nofun
      file := ⟨by decide, by decide, by decide⟩
      line := ⟨⟨by decide, by decide⟩, by decide⟩
      column := by
        rintro _ ⟨⟩
        exact ⟨⟨by decide, by decide⟩, by decide⟩
      severity := by decide
      messageUnbroken := by decide
      trimmed := by decide
      plain := nofun }
  have herror : IsWritable [] labelledError :=
    { label := by decide
      codeUnbroken := nofun
      codeNoColon := nofun
      file := ⟨by decide, by decide, by decide⟩
      line := ⟨⟨by decide, by decide⟩, by decide⟩
      column := nofun
      severity := nofun
      messageUnbroken := by decide
      trimmed := by decide
      plain := fun _ => by decide }
  have hwarning : IsWritable ("-WIDTH [2]" : Text).toList labelledWarning :=
    { label := by decide
      codeUnbroken := by decide
      codeNoColon := by decide
      file := ⟨by decide, by decide, by decide⟩
      line := ⟨⟨by decide, by decide⟩, by decide⟩
      column := by
        rintro _ ⟨⟩
        exact ⟨⟨by decide, by decide⟩, by decide⟩
      severity := nofun
      messageUnbroken := nofun
      trimmed := rfl
      plain := fun _ => by decide }
  have helsewhere : plainWarning.IsElsewhere (some "/work/b%.sv") := by
    rintro _ ⟨⟩
    decide
  obtain ⟨hone, hmany, -⟩ := readDiagnostics_written
  have hfirst := hone [] plainWarning (some "/work/b%.sv") hplain helsewhere
  have hboth := hmany [([], labelledError), (("-WIDTH [2]" : Text).toList, labelledWarning)] none
    (List.forall_mem_cons.mpr ⟨⟨herror, nofun⟩, List.forall_mem_singleton.mpr ⟨hwarning, nofun⟩⟩)
  exact ⟨hfirst, hboth⟩

end Conformance.Backend
