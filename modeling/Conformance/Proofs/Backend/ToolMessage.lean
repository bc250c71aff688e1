import Conformance.Backend.ToolMessage
import Conformance.Proofs.Decimal.Reading

/-!
# Outputs that can be read

The places that messages of a tool name are written in digits, so they are numbers unless there are too many
digits.

Main results:

- `ToolMessage.areDigits_of_read?`: lines and columns are written in digits.
- `ToolMessage.exists_finding_iff`: when a message stands for a diagnostic.
- `exists_readDiagnostics_iff`: when all the diagnostics of an output can be read.
-/

namespace Conformance.Backend

open Text

namespace ToolMessage

variable {label : Option (List CodePoint)} {text number rest : List CodePoint} {m : ToolMessage}

/-- A number as it is written: at least one digit, and nothing else. -/
def AreDigits (number : List CodePoint) : Prop :=
  number ≠ [] ∧ ∀ c ∈ number, isDigit c = true

theorem areDigits_of_splitNumber? (h : splitNumber? text = some (number, rest)) : AreDigits number := by
  unfold splitNumber? at h
  dsimp only at h
  split at h
  · rename_i first others hnumber _
    obtain ⟨rfl, -⟩ := Prod.mk.inj (Option.some.inj h)
    refine ⟨?_, fun c hc => ?_⟩
    · rw [hnumber]
      exact List.cons_ne_nil _ _
    · exact List.mem_takeWhile_imp hc
  · cases h

/-- The line of a message is a number, and so is its column, if it has one. -/
theorem areDigits_of_readPlaced? (h : readPlaced? label text = some m) :
    AreDigits m.line ∧ ∀ column, m.column = some column → AreDigits column := by
  unfold readPlaced? at h
  split at h
  · cases h
  · split at h
    · cases h
    · split at h
      · cases h
      · rename_i line rest hline
        obtain rfl := Option.some.inj h
        refine ⟨areDigits_of_splitNumber? hline, fun column hcolumn => ?_⟩
        cases hsplit : splitNumber? rest with
        | none =>
            simp [hsplit] at hcolumn
        | some found =>
            simp [hsplit] at hcolumn
            subst hcolumn
            exact areDigits_of_splitNumber? hsplit

theorem areDigits_of_read? (h : read? text = some m) :
    AreDigits m.line ∧ ∀ column, m.column = some column → AreDigits column := by
  unfold read? at h
  split at h
  · split at h
    · rename_i hfound
      obtain rfl := Option.some.inj h
      exact areDigits_of_readPlaced? hfound
    · exact areDigits_of_readPlaced? h
  · exact areDigits_of_readPlaced? h

/-- The line or the column of a message has more digits than an integer may have. -/
inductive Overlong (m : ToolMessage) : Prop
  | line : Decimal.digitLimit < m.line.length → Overlong m
  | column {column : List CodePoint} : m.column = some column → Decimal.digitLimit < column.length → Overlong m

theorem AreDigits.exists_readInteger_iff (h : AreDigits number) :
    (∃ n, Decimal.readInteger (.ofList number) = .ok n) ↔ ¬Decimal.digitLimit < number.length := by
  rw [Decimal.readInteger_of_digits h.1 h.2]
  split
  · rename_i hlong
    exact ⟨nofun, fun hshort => absurd hlong hshort⟩
  · rename_i hshort
    exact ⟨fun _ => hshort, fun _ => ⟨_, rfl⟩⟩

/-- A message stands for a diagnostic if its numbers can be read. -/
theorem exists_finding_iff_readInteger (source : Option Text) :
    (∃ found, m.finding source = .ok found) ↔
      (∃ line, Decimal.readInteger (.ofList m.line) = .ok line) ∧
        ∀ column, m.column = some column → ∃ n, Decimal.readInteger (.ofList column) = .ok n := by
  unfold finding
  cases Decimal.readInteger (.ofList m.line) with
  | error e => simp
  | ok line =>
      cases m.column with
      | none => simp
      | some column => cases hread : Decimal.readInteger (.ofList column) <;> simp [hread]

/-- A message stands for a diagnostic unless it has too many digits. -/
theorem exists_finding_iff (h : read? text = some m) (source : Option Text) :
    (∃ found, m.finding source = .ok found) ↔ ¬m.Overlong := by
  obtain ⟨hline, hcolumn⟩ := areDigits_of_read? h
  rw [exists_finding_iff_readInteger, hline.exists_readInteger_iff]
  constructor
  · rintro ⟨hshort, hcolumns⟩ (hlong | ⟨hfound, hlong⟩)
    · exact hshort hlong
    · exact (hcolumn _ hfound).exists_readInteger_iff.mp (hcolumns _ hfound) hlong
  · intro hshort
    exact ⟨fun hlong => hshort (.line hlong), fun column hfound =>
      (hcolumn column hfound).exists_readInteger_iff.mpr fun hlong => hshort (.column hfound hlong)⟩

end ToolMessage

/-! ## Whole outputs -/

/-- None of the messages in an output has too many digits. -/
def Readable (output : Text) : Prop :=
  ∀ line ∈ breakLines output.toList, ∀ m, ToolMessage.read? (trimBlanks line) = some m → ¬m.Overlong

/-- A line can be read if the message on it, if there is one, stands for a diagnostic. -/
theorem exists_findingsOf_cons_iff (source : Option Text) (line : List CodePoint)
    (rest : List (List CodePoint)) :
    (∃ findings, findingsOf source (line :: rest) = .ok findings) ↔
      (∀ m, ToolMessage.read? (trimBlanks line) = some m → ∃ found, m.finding source = .ok found) ∧
        ∃ findings, findingsOf source rest = .ok findings := by
  rw [findingsOf]
  cases ToolMessage.read? (trimBlanks line) with
  | none => simp
  | some message =>
      have honly : (∀ m, some message = some m → ∃ found, m.finding source = .ok found) ↔
          ∃ found, message.finding source = .ok found :=
        ⟨fun h => h message rfl, fun h m hm => Option.some.inj hm ▸ h⟩
      rw [honly]
      dsimp only
      cases message.finding source with
      | error error =>
          constructor
          · rintro ⟨_, hok⟩
            cases hok
          · rintro ⟨⟨_, hok⟩, -⟩
            cases hok
      | ok finding =>
          cases findingsOf source rest with
          | error error =>
              constructor
              · rintro ⟨_, hok⟩
                cases hok
              · rintro ⟨-, _, hok⟩
                cases hok
          | ok findings =>
              exact ⟨fun _ => ⟨⟨finding, rfl⟩, findings, rfl⟩, fun _ => ⟨finding :: findings, rfl⟩⟩

theorem exists_findingsOf_iff (source : Option Text) (lines : List (List CodePoint)) :
    (∃ findings, findingsOf source lines = .ok findings) ↔
      ∀ line ∈ lines, ∀ m, ToolMessage.read? (trimBlanks line) = some m → ¬m.Overlong := by
  induction lines with
  | nil => exact ⟨fun _ _ hline => (List.not_mem_nil hline).elim, fun _ => ⟨[], rfl⟩⟩
  | cons line rest ih =>
      rw [exists_findingsOf_cons_iff, ih, List.forall_mem_cons]
      refine and_congr_left fun _ => forall_congr' fun m => forall_congr' fun hread => ?_
      exact ToolMessage.exists_finding_iff hread source

/-- The diagnostics of an output can be read exactly if none of its messages has too many digits. -/
theorem exists_readDiagnostics_iff (output : Text) (source : Option Text) :
    (∃ found, readDiagnostics output source = .ok found) ↔ Readable output := by
  unfold Readable readDiagnostics
  rw [← exists_findingsOf_iff source]
  cases findingsOf source (breakLines output.toList) <;> simp [Except.map]

end Conformance.Backend
