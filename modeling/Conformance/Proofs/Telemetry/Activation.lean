import Conformance.Proofs.Config.Written
import Conformance.Proofs.Text.Letters
import Conformance.Telemetry.Activation

/-!
# The switch for reporting, read twice

Two variables of the environment switch reporting on.  They are read before any configuration is, and once more for
the configuration, if its file has no section for them.  The first reader passes over blanks and takes capitals for
small letters; the second takes what it finds as it stands.  So reporting can be on although the configuration
says that it is off, and the other way round.

Main results:

- `readsYes_iff`: the texts that the first reader takes for a word that switches something on.
- `active_activateFromEnvironment_iff`: when the variables alone turn reporting on.
- `monitoring_of_load`: what a configuration makes of the same variables.
- `activateFromEnvironment_agrees_iff`: the variables on which the two agree.
-/

namespace Conformance.Telemetry

open Text

variable {e : Environment} {t enabled dsn : Text}

/-! ## Words -/

/-- The words that switch something on. -/
def switchWords : List (List Char) :=
  ["1".toList, "true".toList, "yes".toList]

/-- A text is one of the words that switch something on. -/
def IsYes (t : Text) : Prop :=
  ∃ word ∈ switchWords, t = .ofChars word

/-- A text is one of these words up to case, with blanks around it or without. -/
def ReadsYes (t : Text) : Prop :=
  ∃ word ∈ switchWords, ∃ front name tail, Spells word name ∧ (∀ c ∈ front, isBlank c = true) ∧
    (∀ c ∈ tail, isBlank c = true) ∧ t = .ofList (front ++ name ++ tail)

/-- A text that holds blanks only. -/
def IsBlankText (t : Text) : Prop :=
  ∀ c ∈ t.toList, isBlank c = true

theorem isBlankText_empty : IsBlankText "" :=
  List.forall_mem_nil _

theorem twoCased_switchWords : ∀ word ∈ switchWords, TwoCased word := by
  decide

/-- The words are spelled without blanks. -/
theorem isBlank_eq_false_of_spells {word : List Char} {name : List CodePoint} (hword : word ∈ switchWords)
    (h : Spells word name) : ∀ c ∈ name, isBlank c = false := by
  have hletters : ∀ word ∈ switchWords, word.all (fun c => !isBlank (.char c)) = true := by decide
  have hcases : ∀ c : Char, c.toNat < 128 → isBlank (.char c.toLower) = isBlank (.char c) := fun c =>
    forall_ascii (P := fun c => isBlank (.char c.toLower) = isBlank (.char c)) (by decide)
  obtain ⟨letters, rfl, rfl⟩ := h
  intro c hc
  obtain ⟨d, hd, rfl⟩ := List.mem_map.mp hc
  have hletter : d.toLower ∈ letters.map Char.toLower := List.mem_map_of_mem hd
  have hascii : d.toNat < 128 := toNat_lt_of_toLower ((twoCased_switchWords _ hword).toNat_lt _ hletter)
  have hblank := List.all_eq_true.mp (hletters _ hword) _ hletter
  rw [hcases d hascii] at hblank
  exact (Bool.not_eq_true' _).mp hblank

/-- Blanks around a word do not matter. -/
theorem trimBlanks_of_spells {word : List Char} {front name tail : List CodePoint} (hword : word ∈ switchWords)
    (h : Spells word name) (hfront : ∀ c ∈ front, isBlank c = true) (htail : ∀ c ∈ tail, isBlank c = true) :
    trimBlanks (front ++ name ++ tail) = name := by
  have hname := isBlank_eq_false_of_spells hword h
  rw [trimBlanks, trim_append_all name hfront htail]
  exact trim_eq_self (fun c hc => hname c (List.mem_of_mem_head? hc)) fun c hc => hname c (List.mem_of_mem_getLast? hc)

/-- A text reads as one of the words if it is one when its blanks and capitals are left aside. -/
theorem readsYes_iff : ReadsYes t ↔ IsYes (lowercase (.ofList (trimBlanks t.toList))) := by
  constructor
  · rintro ⟨word, hword, front, name, tail, hname, hfront, htail, rfl⟩
    refine ⟨word, hword, congrArg Text.ofList ?_⟩
    rw [trimBlanks_of_spells hword hname hfront htail]
    exact (lower_eq_iff_spells (twoCased_switchWords word hword)).mpr hname
  · rintro ⟨word, hword, hlower⟩
    obtain ⟨front, tail, htext, hfront, htail⟩ := exists_trim isBlank t.toList
    have hname := (lower_eq_iff_spells (twoCased_switchWords word hword)).mp (Text.ofList.inj hlower)
    exact ⟨word, hword, front, _, tail, hname, hfront, htail, congrArg Text.ofList htext⟩

theorem IsYes.readsYes (h : IsYes t) : ReadsYes t := by
  have hlower : ∀ word ∈ switchWords, word.map Char.toLower = word := by decide
  obtain ⟨word, hword, rfl⟩ := h
  refine ⟨word, hword, [], word.map .char, [], ⟨word, hlower word hword, rfl⟩, nofun, nofun, ?_⟩
  rw [List.nil_append, List.append_nil]
  rfl

/-! ## Two readers -/

/-- A variable of the environment, which is empty if it is not set. -/
def variableOf (e : Environment) (name : Text) : Text :=
  (e.get? name).getD ""

theorem contains_switchWords_iff (t : Text) : (switchWords.map Text.ofChars).contains t = true ↔ IsYes t := by
  rw [List.contains_iff_mem, List.mem_map]
  exact exists_congr fun word => and_congr_right fun _ => eq_comm

/-- When reporting starts before a configuration is read. -/
theorem active_activateFromEnvironment_iff :
    (activateFromEnvironment e false).active = true ↔
      ReadsYes (variableOf e "SVCONFORM_SENTRY_ENABLED") ∧ ¬IsBlankText (variableOf e "SVCONFORM_SENTRY_DSN") := by
  generalize henabled : variableOf e "SVCONFORM_SENTRY_ENABLED" = enabled
  generalize hdsn : variableOf e "SVCONFORM_SENTRY_DSN" = dsn
  have hblank : (Text.ofList (trimBlanks dsn.toList)).isEmpty = true ↔ IsBlankText dsn :=
    List.isEmpty_iff.trans trim_eq_nil_iff
  have hstart : activateFromEnvironment e false =
      if (switchWords.map Text.ofChars).contains (lowercase (.ofList (trimBlanks enabled.toList))) &&
          !(Text.ofList (trimBlanks dsn.toList)).isEmpty then
        activate e false ⟨true, .ofList (trimBlanks dsn.toList), ""⟩
      else ⟨false, none, []⟩ := by
    rw [← henabled, ← hdsn]
    rfl
  rw [readsYes_iff, ← contains_switchWords_iff, ← hblank, hstart, apply_ite Activation.active, active_activate]
  generalize (switchWords.map Text.ofChars).contains _ = yes
  generalize Text.isEmpty _ = blank
  cases yes <;> cases blank <;> simp

/-- What a configuration says about reporting when its file has no section for it. -/
theorem monitoring_of_load {tree : FileTree} {path source : Option Path} {entries : List (Document × Document)}
    {c : Config} (hread : Config.readSource tree path = .ok (source, entries))
    (hsection : Config.sectionOf "sentry" entries = []) (hload : (Config.load tree e path).1 = .ok c) :
    (c.monitoring.enabled = true ↔ IsYes (variableOf e "SVCONFORM_SENTRY_ENABLED")) ∧
      c.monitoring.dsn = variableOf e "SVCONFORM_SENTRY_DSN" := by
  have hnone : Config.sectionOf "sentry" (Config.resolveEntries e entries).1 = [] := by
    rw [Config.sectionOf_resolveEntries, hsection]
    rfl
  have hmonitoring : Config.readMonitoring e (Config.resolveEntries e entries).1 =
      .ok ⟨(["true", "1", "yes"] : List Text).contains (variableOf e "SVCONFORM_SENTRY_ENABLED"),
        variableOf e "SVCONFORM_SENTRY_DSN", ""⟩ := by
    rw [Config.readMonitoring, hnone]
    rfl
  have hperm : (["true", "1", "yes"] : List Text).Perm (switchWords.map Text.ofChars) := .swap _ _ _
  rw [← Except.ok.inj (hmonitoring.symm.trans (Config.readMonitoring_of_load hread hload)), ← contains_switchWords_iff,
    List.contains_iff_mem, List.contains_iff_mem, hperm.mem_iff]
  exact ⟨Iff.rfl, rfl⟩

/-- The variables of which the two readers make different things. -/
inductive ReadApart (enabled dsn : Text) : Prop
  /-- Only the reader that passes over blanks and capitals finds the switch on. -/
  | spelling : ReadsYes enabled → ¬IsYes enabled → ¬IsBlankText dsn → ReadApart enabled dsn
  /-- Only the reader that does not pass over blanks finds an address. -/
  | blank : IsYes enabled → dsn ≠ "" → IsBlankText dsn → ReadApart enabled dsn

theorem readApart_iff :
    ReadApart enabled dsn ↔ ¬(ReadsYes enabled ∧ ¬IsBlankText dsn ↔ IsYes enabled ∧ dsn ≠ "") := by
  constructor
  · rintro (⟨hreads, hnot, haddress⟩ | ⟨hyes, haddress, hblank⟩) hsame
    · exact hnot (hsame.mp ⟨hreads, haddress⟩).1
    · exact (hsame.mpr ⟨hyes, haddress⟩).2 hblank
  · intro hnot
    -- A word that the second reader knows the first one knows too, so then the address makes the difference.
    by_cases hyes : IsYes enabled
    · refine .blank hyes ?_ ?_
      · rintro rfl
        exact hnot (iff_of_false (fun h => h.2 isBlankText_empty) fun h => h.2 rfl)
      · by_contra haddress
        refine hnot (iff_of_true ⟨hyes.readsYes, haddress⟩ ⟨hyes, ?_⟩)
        rintro rfl
        exact haddress isBlankText_empty
    · have hon : ReadsYes enabled ∧ ¬IsBlankText dsn := by
        by_contra hoff
        exact hnot (iff_of_false hoff fun h => hyes h.1)
      exact .spelling hon.1 hyes hon.2

/-- The environment on its own starts reporting exactly if the configuration that is made of it does, but for the
variables of which the two readers make different things. -/
theorem activateFromEnvironment_agrees_iff {tree : FileTree} {path source : Option Path}
    {entries : List (Document × Document)} {c : Config}
    (hread : Config.readSource tree path = .ok (source, entries))
    (hsection : Config.sectionOf "sentry" entries = []) (hload : (Config.load tree e path).1 = .ok c) :
    ((activate e false c.monitoring).active = true ↔ c.monitoring.enabled = true ∧ c.monitoring.dsn ≠ "") ∧
      (((activateFromEnvironment e false).active = true ↔ (activate e false c.monitoring).active = true) ↔
        ¬ReadApart (variableOf e "SVCONFORM_SENTRY_ENABLED") (variableOf e "SVCONFORM_SENTRY_DSN")) := by
  obtain ⟨henabled, hdsn⟩ := monitoring_of_load hread hsection hload
  have hempty : c.monitoring.dsn.isEmpty = true ↔ c.monitoring.dsn = "" :=
    List.isEmpty_iff.trans ⟨congrArg Text.ofList, congrArg Text.toList⟩
  have hactive : (activate e false c.monitoring).active = true ↔
      c.monitoring.enabled = true ∧ c.monitoring.dsn ≠ "" := by
    rw [active_activate, Bool.false_or, Bool.and_eq_true, Bool.not_eq_true', ← Bool.not_eq_true, hempty]
  refine ⟨hactive, ?_⟩
  rw [readApart_iff, not_not, hactive, henabled, hdsn, active_activateFromEnvironment_iff]

/-- Variables that switch reporting on in capitals. -/
def shouting : Environment :=
  [("SVCONFORM_SENTRY_ENABLED", "TRUE"), ("SVCONFORM_SENTRY_DSN", "https://key@host/1")]

/-- The switch in capitals is on for one reader and off for the other. -/
theorem activateFromEnvironment_agrees_iff_capitals :
    ∃ c, (Config.load ⟨.directory [], []⟩ shouting none).1 = .ok c ∧
      ¬((activateFromEnvironment shouting false).active = true ↔
        c.monitoring.enabled = true ∧ c.monitoring.dsn ≠ "") := by
  cases hload : (Config.load ⟨.directory [], []⟩ shouting none).1 with
  | error failure =>
      have hok : (Config.load ⟨.directory [], []⟩ shouting none).1.toOption.isSome = true := by decide +kernel
      rw [hload] at hok
      cases hok
  | ok c =>
      have hread : Config.readSource ⟨.directory [], []⟩ none = .ok (none, []) := rfl
      obtain ⟨hactive, hagrees⟩ := activateFromEnvironment_agrees_iff hread rfl hload
      refine ⟨c, rfl, fun hsame => ?_⟩
      refine hagrees.mp (hsame.trans hactive.symm) (.spelling ?_ ?_ ?_)
      · exact ⟨"true".toList, by decide, [], "TRUE".toList.map .char, [], by decide, nofun, nofun, rfl⟩
      · unfold IsYes
        decide
      · unfold IsBlankText
        decide

end Conformance.Telemetry
