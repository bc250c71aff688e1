import Mathlib.Data.List.Induction
import Mathlib.Data.List.Nodup

/-!
# Entries under keys

In a list of entries under keys a key keeps the place at which it first came in.  What stands under it is changed in this
place, and a key that is not there is put behind the others.  So every key stands there once, in the order in which the
keys first came in, whatever is changed under them.

Main results:

- `Keyed.alter_of_mem`, `Keyed.alter_of_notMem`: what a change does to the entries.
- `Keyed.keys_alter`, `Keyed.lookup_alter`: what it does to the keys, and what stands under each key behind it.
- `Keyed.mem_alter_iff`: the entries behind it, if the keys are different.
- `Keyed.nodup_keys_alter`: keys that are different stay so.
- `Keyed.eraseDups_concat`: the keys in the order in which they first came in, with one more.
-/

namespace Conformance.Keyed

variable {κ β : Type} [DecidableEq κ] {key other : κ} {change : Option β → β} {value : β} {entries : List (κ × β)}

/-- The entries with what stands under a key changed, given what stood there. -/
def alter (key : κ) (change : Option β → β) : List (κ × β) → List (κ × β)
  | [] => [(key, change none)]
  | (other, value) :: rest =>
    if other = key then (other, change (some value)) :: rest else (other, value) :: alter key change rest

/-- A key that is not there is put behind the others. -/
theorem alter_of_notMem (h : key ∉ entries.map Prod.fst) :
    alter key change entries = entries ++ [(key, change none)] := by
  induction entries with
  | nil => rfl
  | cons entry rest ih =>
      rw [List.map_cons, List.mem_cons, not_or] at h
      rw [alter, if_neg (Ne.symm h.1), ih h.2, List.cons_append]

/-- Only what stands under the key is changed. -/
theorem alter_of_mem (hnodup : (entries.map Prod.fst).Nodup) (h : key ∈ entries.map Prod.fst) :
    alter key change entries =
      entries.map fun entry => if entry.1 = key then (entry.1, change (some entry.2)) else entry := by
  induction entries with
  | nil => cases h
  | cons entry rest ih =>
      obtain ⟨first, value⟩ := entry
      rw [List.map_cons, List.nodup_cons] at hnodup
      rw [List.map_cons, List.mem_cons] at h
      rw [alter, List.map_cons]
      by_cases hfirst : first = key
      · have hrest : ∀ entry ∈ rest, entry.1 ≠ key := by
          rintro entry hentry rfl
          exact hnodup.1 (List.mem_map.mpr ⟨entry, hentry, hfirst.symm⟩)
        rw [if_pos hfirst, if_pos hfirst]
        refine congrArg _ ((List.map_id rest).symm.trans (List.map_congr_left fun entry hentry => ?_))
        exact (if_neg (hrest entry hentry)).symm
      · rw [if_neg hfirst, if_neg hfirst, ih hnodup.2 (h.resolve_left (Ne.symm hfirst))]

/-- A key that is there keeps its place. -/
theorem keys_alter_of_mem (h : key ∈ entries.map Prod.fst) :
    (alter key change entries).map Prod.fst = entries.map Prod.fst := by
  induction entries with
  | nil => cases h
  | cons entry rest ih =>
      rw [List.map_cons, List.mem_cons] at h
      rw [alter]
      by_cases hfirst : entry.1 = key
      · rw [if_pos hfirst, List.map_cons, List.map_cons]
      · rw [if_neg hfirst, List.map_cons, List.map_cons, ih (h.resolve_left (Ne.symm hfirst))]

theorem keys_alter (key : κ) (change : Option β → β) (entries : List (κ × β)) :
    (alter key change entries).map Prod.fst =
      if key ∈ entries.map Prod.fst then entries.map Prod.fst else entries.map Prod.fst ++ [key] := by
  by_cases h : key ∈ entries.map Prod.fst
  · rw [if_pos h, keys_alter_of_mem h]
  · rw [if_neg h, alter_of_notMem h, List.map_append, List.map_singleton]

/-- Keys that are different stay so. -/
theorem nodup_keys_alter (h : (entries.map Prod.fst).Nodup) (key : κ) (change : Option β → β) :
    ((alter key change entries).map Prod.fst).Nodup := by
  rw [keys_alter]
  by_cases hmem : key ∈ entries.map Prod.fst
  · rwa [if_pos hmem]
  · rw [if_neg hmem]
    exact List.nodup_append.mpr ⟨h, List.nodup_singleton key, fun _ hother _ hkey heq =>
      hmem (List.mem_singleton.mp hkey ▸ heq ▸ hother)⟩

theorem lookup_cons (entry : κ × β) (rest : List (κ × β)) (key : κ) :
    (entry :: rest).lookup key = if key = entry.1 then some entry.2 else rest.lookup key := by
  rw [List.lookup_cons]
  by_cases h : key = entry.1
  · rw [beq_iff_eq.mpr h, if_pos h]
  · rw [beq_false_of_ne h, if_neg h]

/-- Nothing is found under a key that is not there. -/
theorem lookup_eq_none_iff : entries.lookup key = none ↔ key ∉ entries.map Prod.fst := by
  induction entries with
  | nil => exact iff_of_true rfl List.not_mem_nil
  | cons entry rest ih =>
      rw [lookup_cons, List.map_cons, List.mem_cons, not_or, ← ih]
      by_cases h : key = entry.1
      · rw [if_pos h]
        exact iff_of_false nofun fun hnone => hnone.1 h
      · rw [if_neg h]
        exact (and_iff_right h).symm

/-- The change is found under its key, and under every other one what stood there. -/
theorem lookup_alter (key other : κ) (change : Option β → β) (entries : List (κ × β)) :
    (alter key change entries).lookup other =
      if other = key then some (change (entries.lookup key)) else entries.lookup other := by
  induction entries with
  | nil => exact lookup_cons (key, change none) [] other
  | cons entry rest ih =>
      obtain ⟨first, value⟩ := entry
      rw [alter]
      by_cases hfirst : first = key
      · subst hfirst
        rw [if_pos rfl, lookup_cons, lookup_cons, lookup_cons, if_pos rfl]
        by_cases hother : other = first
        · rw [if_pos hother, if_pos hother]
        · rw [if_neg hother, if_neg hother, if_neg hother]
      · rw [if_neg hfirst, lookup_cons, lookup_cons, lookup_cons, if_neg (Ne.symm hfirst), ih]
        by_cases hother : other = first
        · have hkey : other ≠ key := hother ▸ hfirst
          rw [if_pos hother, if_pos hother, if_neg hkey]
        · rw [if_neg hother, if_neg hother]

/-- What stands under keys that are different is found there. -/
theorem mem_iff_lookup (hnodup : (entries.map Prod.fst).Nodup) :
    (key, value) ∈ entries ↔ entries.lookup key = some value := by
  induction entries with
  | nil => exact iff_of_false List.not_mem_nil nofun
  | cons entry rest ih =>
      obtain ⟨first, kept⟩ := entry
      rw [List.map_cons, List.nodup_cons] at hnodup
      rw [List.mem_cons, Prod.mk.injEq, lookup_cons, ih hnodup.2]
      by_cases h : key = first
      · have hrest : rest.lookup key = none := lookup_eq_none_iff.mpr (h ▸ hnodup.1)
        rw [if_pos h, hrest, Option.some_inj, eq_comm (a := kept)]
        simp [h]
      · rw [if_neg h]
        simp [h]

/-- The change is there under its key, and under every other one what stood there. -/
theorem mem_alter_iff (hnodup : (entries.map Prod.fst).Nodup) :
    (other, value) ∈ alter key change entries ↔
      (other = key ∧ value = change (entries.lookup key)) ∨ (other ≠ key ∧ (other, value) ∈ entries) := by
  rw [mem_iff_lookup (nodup_keys_alter hnodup key change), lookup_alter, mem_iff_lookup hnodup]
  by_cases h : other = key
  · rw [if_pos h, Option.some_inj, eq_comm (a := value)]
    simp [h]
  · rw [if_neg h]
    simp [h]

/-- The members of a list in the order in which they first came in, with one more. -/
theorem eraseDups_concat {α : Type} [BEq α] [LawfulBEq α] (list : List α) (a : α) :
    (list ++ [a]).eraseDups = if a ∈ list then list.eraseDups else list.eraseDups ++ [a] := by
  rw [List.eraseDups_append]
  by_cases ha : a ∈ list
  · simp [List.removeAll, ha]
  · simp [List.removeAll, ha, List.eraseDups_cons]

theorem nodup_eraseDups {α : Type} [BEq α] [LawfulBEq α] (list : List α) : list.eraseDups.Nodup := by
  induction list using List.reverseRecOn with
  | nil => exact List.nodup_nil
  | append_singleton list a ih =>
      rw [eraseDups_concat]
      by_cases ha : a ∈ list
      · rwa [if_pos ha]
      · rw [if_neg ha, List.nodup_append]
        exact ⟨ih, List.nodup_singleton a, fun _ hother _ hlast heq =>
          ha (List.mem_eraseDups.mp (List.mem_singleton.mp hlast ▸ heq ▸ hother))⟩

end Conformance.Keyed
