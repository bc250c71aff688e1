import Conformance.Proofs.Config.Placeholder
import Conformance.Proofs.Document.Value

/-!
# Placeholders in nested values

The variables of a mapping are put in where its values are texts, where these values are mappings themselves, and in
the texts of a list.  What a list holds beside texts is left as it is, so that a placeholder that stands deeper in a
list stays.

Main results:

- `place?_resolve_of_reaches`, `place?_resolve_of_not_reaches`: what stands at the place of a text afterwards.
- `outline_resolve`: nothing but texts is changed.
- `resolve_eq_mapTexts_iff`: when all texts of a value have their variables put in.
- `resolveMapping_reaches`: the same for whole mappings, for which putting in variables does not fail.
-/

namespace Conformance.Config

open Document

variable {e : Environment} {d : Document} {path : List Nat} {t : Text}

/-- The text that is put in the place of a text. -/
def resolvedText (e : Environment) (t : Text) : Text :=
  (resolveText e t).1

/-! ## Parts -/

theorem resolve_list (items : List Document) :
    (resolve e (.list items)).1 = .list (items.map fun item => (resolveItem e item).1) := by
  simp [resolve]

theorem resolveEntries_eq (entries : List (Document × Document)) :
    (resolveEntries e entries).1 = entries.map fun entry => (entry.1, (resolve e entry.2).1) := by
  induction entries with
  | nil => rfl
  | cons entry rest ih => simp [resolveEntries, ih]

theorem inside_resolve_list (items : List Document) :
    (resolve e (.list items)).1.inside = items.map fun item => (resolveItem e item).1 := by
  rw [resolve_list, inside]

theorem inside_resolve_map (entries : List (Document × Document)) :
    (resolve e (.map entries)).1.inside = (Document.map entries).inside.map fun value => (resolve e value).1 := by
  simp [resolve_map, resolveEntries_eq, inside]

/-- Of the items of a list only texts are looked at. -/
theorem resolveItem_of_ne (h : ∀ t, d ≠ .text t) : (resolveItem e d).1 = d := by
  cases d with
  | text t => exact absurd rfl (h t)
  | _ => rfl

/-! ## Places that are reached -/

/-- The places of the texts that are reached: under keys of mappings, one in the other, and at the end perhaps in a
list. -/
inductive Reaches : Document → List Nat → Prop
  | text (t : Text) : Reaches (.text t) []
  | item {items : List Document} {n : Nat} {t : Text} : items[n]? = some (.text t) → Reaches (.list items) [n]
  | value {entries : List (Document × Document)} {n : Nat} {key value : Document} {path : List Nat} :
      entries[n]? = some (key, value) → Reaches value path → Reaches (.map entries) (n :: path)

/-- The variables are put in at a place that is reached. -/
theorem place?_resolve_of_reaches (h : Reaches d path) (ht : place? path d = some (.text t)) :
    place? path (resolve e d).1 = some (.text (resolvedText e t)) := by
  induction h with
  | text found =>
      cases ht
      simp [resolve, resolvedText]
  | @item items n found hitem =>
      obtain ⟨inner, hinner, hplace⟩ := place?_cons_eq_some_iff.mp ht
      cases hitem.symm.trans hinner
      cases hplace
      refine place?_cons_eq_some_iff.mpr ⟨.text (resolvedText e t), ?_, rfl⟩
      rw [inside_resolve_list, List.getElem?_map, hitem]
      rfl
  | @value entries n key found path hentry _ ih =>
      obtain ⟨inner, hinner, hplace⟩ := place?_cons_eq_some_iff.mp ht
      have hfound : (Document.map entries).inside[n]? = some found := by simp [inside, hentry]
      cases hfound.symm.trans hinner
      refine place?_cons_eq_some_iff.mpr ⟨(resolve e found).1, ?_, ih hplace⟩
      rw [inside_resolve_map, List.getElem?_map, hfound]
      rfl

/-- A text at any other place stays as it is. -/
theorem place?_resolve_of_not_reaches (h : ¬Reaches d path) (ht : place? path d = some (.text t)) :
    place? path (resolve e d).1 = some (.text t) := by
  induction path generalizing d with
  | nil =>
      cases ht
      exact absurd (.text t) h
  | cons n path ih =>
      obtain ⟨inner, hinner, hplace⟩ := place?_cons_eq_some_iff.mp ht
      refine place?_cons_eq_some_iff.mpr ?_
      cases d with
      | list items =>
          -- A text that is an item itself would be reached, so the item is a container and is left alone.
          have hne : ∀ found, inner ≠ .text found := by
            rintro found rfl
            cases path with
            | nil => exact h (.item hinner)
            | cons m path => cases hplace
          refine ⟨inner, ?_, hplace⟩
          have hitem : items[n]? = some inner := hinner
          rw [inside_resolve_list, List.getElem?_map, hitem, Option.map_some, resolveItem_of_ne hne]
      | map entries =>
          have hnot : ¬Reaches inner path := by
            intro hreaches
            simp only [inside, List.getElem?_map, Option.map_eq_some_iff] at hinner
            obtain ⟨⟨key, value⟩, hentry, rfl⟩ := hinner
            exact h (.value hentry hreaches)
          refine ⟨(resolve e inner).1, ?_, ih hnot hplace⟩
          rw [inside_resolve_map, List.getElem?_map, hinner]
          rfl
      | _ => cases hinner

/-! ## Shapes -/

theorem outline_resolveItem (d : Document) : (resolveItem e d).1.outline = d.outline := by
  cases d with
  | text t => rfl
  | _ => rfl

/-- Putting in variables changes nothing but texts. -/
theorem outline_resolve (d : Document) : (resolve e d).1.outline = d.outline := by
  induction d using inside_induction with
  | step d ih =>
      cases d with
      | list items =>
          rw [resolve_list, outline, outline, mapTexts_list, mapTexts_list, List.map_map]
          exact congrArg Document.list (List.map_congr_left fun item _ => outline_resolveItem item)
      | map entries =>
          rw [resolve_map, outline, outline, resolveEntries_eq, mapTexts_map, mapTexts_map, List.map_map]
          refine congrArg Document.map (List.map_congr_left fun entry hentry => ?_)
          exact Prod.ext rfl (ih entry.2 (List.mem_map_of_mem hentry))
      | _ => rfl

/-! ## All texts -/

/-- No text at a place that is not reached would be changed. -/
def MissesNothing (e : Environment) (d : Document) : Prop :=
  ∀ path t, place? path d = some (.text t) → ¬Reaches d path → resolvedText e t = t

/-- If nothing is missed, all texts have their variables put in. -/
theorem resolve_eq_mapTexts (h : MissesNothing e d) : (resolve e d).1 = d.mapTexts (resolvedText e) := by
  induction d using inside_induction with
  | step d ih =>
      cases d with
      | text t => rfl
      | list items =>
          have hitems : ∀ item ∈ items, (resolveItem e item).1 = item.mapTexts (resolvedText e) := by
            intro item hitem
            by_cases htext : ∃ t, item = .text t
            · obtain ⟨t, rfl⟩ := htext
              rfl
            · obtain ⟨n, hn⟩ := List.mem_iff_getElem?.mp hitem
              -- Every text in such an item is at a place that is not reached.
              have hkept : item.mapTexts (resolvedText e) = item := by
                refine mapTexts_eq_self fun path t ht => ?_
                refine h (n :: path) t (place?_cons_eq_some_iff.mpr ⟨item, hn, ht⟩) fun hreaches => ?_
                cases hreaches with
                | item hfound => exact htext ⟨_, Option.some.inj (hn.symm.trans hfound)⟩
              rw [hkept, resolveItem_of_ne fun t ht => htext ⟨t, ht⟩]
          rw [resolve_list, mapTexts_list]
          exact congrArg Document.list (List.map_congr_left hitems)
      | map entries =>
          rw [resolve_map, resolveEntries_eq, mapTexts_map]
          refine congrArg Document.map (List.map_congr_left fun entry hentry => Prod.ext rfl ?_)
          refine ih entry.2 (List.mem_map_of_mem hentry) fun path t ht hnot => ?_
          obtain ⟨n, hn⟩ := List.mem_iff_getElem?.mp hentry
          refine h (n :: path) t (place?_cons_eq_some_iff.mpr ⟨entry.2, by simp [inside, hn], ht⟩) fun hreaches => ?_
          cases hreaches with
          | value hfound hvalue =>
              cases hn.symm.trans hfound
              exact hnot hvalue
      | _ => rfl

/-- All texts have their variables put in exactly if nothing is missed. -/
theorem resolve_eq_mapTexts_iff : (resolve e d).1 = d.mapTexts (resolvedText e) ↔ MissesNothing e d := by
  refine ⟨fun h path t ht hnot => ?_, resolve_eq_mapTexts⟩
  have hkept : place? path (resolve e d).1 = some (.text t) := place?_resolve_of_not_reaches hnot ht
  rw [h, place?_mapTexts, ht] at hkept
  exact Document.text.inj (Option.some.inj hkept)

/-! ## Mappings -/

/-- What a mapping is like when its variables have been put in. -/
structure FilledIn (e : Environment) (before after : Document) : Prop where
  /-- Keys, lengths and all that is no text are as before. -/
  shape : after.outline = before.outline
  reached : ∀ path t, place? path before = some (.text t) → Reaches before path →
    place? path after = some (.text (resolvedText e t))
  missed : ∀ path t, place? path before = some (.text t) → ¬Reaches before path →
    place? path after = some (.text t)
  everywhere : after = before.mapTexts (resolvedText e) ↔ MissesNothing e before

/-- Putting in the variables of a mapping gives a mapping of the same shape, in which the texts that are reached have
theirs put in. -/
theorem resolveMapping_reaches (e : Environment) (entries : List (Document × Document)) :
    ∃ after notes, resolveMapping e (.map entries) = (.ok after, notes) ∧ FilledIn e (.map entries) after := by
  refine ⟨(resolve e (.map entries)).1, (resolveEntries e entries).2, rfl, ?_⟩
  exact
    { shape := outline_resolve _
      reached := fun path t ht h => place?_resolve_of_reaches h ht
      missed := fun path t ht h => place?_resolve_of_not_reaches h ht
      everywhere := resolve_eq_mapTexts_iff }

/-- A command line with an argument in a list of its own. -/
def nestedArguments : List (Document × Document) :=
  [(.text "argv", .list [.list [.text "$\x7bTOOL\x7d"], .text "$\x7bTOOL\x7d"])]

/-- The variable of an argument is put in, but not that of an argument in a list of its own. -/
theorem resolveMapping_reaches_arguments :
    ∃ after notes, resolveMapping [("TOOL", "verilator")] (.map nestedArguments) = (.ok after, notes) ∧
      place? [0, 0, 0] after = some (.text "$\x7bTOOL\x7d") ∧ place? [0, 1] after = some (.text "verilator") ∧
        after ≠ mapTexts (resolvedText [("TOOL", "verilator")]) (.map nestedArguments) := by
  have hresolved : resolvedText [("TOOL", "verilator")] "$\x7bTOOL\x7d" = "verilator" :=
    congrArg Prod.fst (resolveText_placeholder "TOOL" (by decide) (by decide))
  have hmissed : ¬Reaches (.map nestedArguments) [0, 0, 0] := by
    rintro (_ | _ | ⟨hentry, hvalue⟩)
    cases hentry
    cases hvalue
  obtain ⟨after, notes, hmapping, hfilled⟩ := resolveMapping_reaches [("TOOL", "verilator")] nestedArguments
  refine ⟨after, notes, hmapping, hfilled.missed _ _ rfl hmissed, ?_, fun heverywhere => ?_⟩
  · rw [← hresolved]
    exact hfilled.reached _ _ rfl (.value rfl (.item rfl))
  · have hsame := hfilled.everywhere.mp heverywhere [0, 0, 0] _ rfl hmissed
    rw [hresolved] at hsame
    exact absurd hsame (by decide)

end Conformance.Config
