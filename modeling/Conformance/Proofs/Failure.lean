import Conformance.Failure
import Mathlib.Data.List.Forall2

/-!
# Values and failures

What is computed in steps has a value exactly if every step has one.  Two computations are alike if they fail in the
same way, or if their values are related.

Main results:

- `bind_eq_ok_iff`, `mapM_eq_ok_iff`: when steps that follow one another all have values.
- `Alike.bind`, `Alike.bind_eq`: steps that are alike make up computations that are alike.
-/

namespace Conformance

variable {α β γ δ ε : Type}

/-! ## Values -/

/-- Of two steps the second one is taken if the first one has a value. -/
theorem bind_eq_ok_iff {x : Except ε α} {f : α → Except ε β} {b : β} :
    x >>= f = .ok b ↔ ∃ a, x = .ok a ∧ f a = .ok b := by
  cases x with
  | ok a => simp [bind, Except.bind]
  | error failure => simp [bind, Except.bind]

theorem map_eq_ok_iff {x : Except ε α} {f : α → β} {b : β} : x.map f = .ok b ↔ ∃ a, x = .ok a ∧ f a = b := by
  cases x with
  | ok a => simp [Except.map]
  | error failure => simp [Except.map]

/-- Values for all members of a list, one by one. -/
theorem mapM_eq_ok_iff {f : α → Except ε β} {members : List α} {values : List β} :
    members.mapM f = .ok values ↔ List.Forall₂ (fun a b => f a = .ok b) members values := by
  induction members generalizing values with
  | nil =>
      rw [List.mapM_nil, List.forall₂_nil_left_iff]
      exact ⟨fun h => (Except.ok.inj h).symm, fun h => congrArg Except.ok h.symm⟩
  | cons a rest ih =>
      rw [List.mapM_cons, List.forall₂_cons_left_iff, bind_eq_ok_iff]
      constructor
      · rintro ⟨b, hb, hlater⟩
        obtain ⟨later, hrest, hvalues⟩ := bind_eq_ok_iff.mp hlater
        exact ⟨b, later, hb, ih.mp hrest, (Except.ok.inj hvalues).symm⟩
      · rintro ⟨b, later, hb, hlater, rfl⟩
        exact ⟨b, hb, bind_eq_ok_iff.mpr ⟨later, ih.mpr hlater, rfl⟩⟩

/-- A list has no values because a member has none. -/
theorem exists_of_mapM_eq_error {f : α → Except ε β} {members : List α} {failure : ε}
    (h : members.mapM f = .error failure) : ∃ a ∈ members, f a = .error failure := by
  induction members with
  | nil => cases h
  | cons a rest ih =>
      rw [List.mapM_cons] at h
      cases ha : f a with
      | error other =>
          rw [ha] at h
          exact ⟨a, List.mem_cons_self, ha.trans (congrArg Except.error (Except.error.inj h))⟩
      | ok b =>
          cases hrest : rest.mapM f with
          | error other =>
              rw [ha, hrest] at h
              obtain ⟨found, hmem, hfound⟩ := ih (hrest.trans h)
              exact ⟨found, List.mem_cons_of_mem a hmem, hfound⟩
          | ok later =>
              rw [ha, hrest] at h
              cases h

/-- What can be said of a value of a list can be said of a member. -/
theorem exists_mem_iff_of_mapM {f : α → Except ε β} {members : List α} {values : List β} {P : α → Prop} {Q : β → Prop}
    (h : members.mapM f = .ok values) (hstep : ∀ a b, f a = .ok b → (Q b ↔ P a)) :
    (∃ b ∈ values, Q b) ↔ ∃ a ∈ members, P a := by
  rw [mapM_eq_ok_iff] at h
  induction h with
  | nil => simp
  | @cons a b members values hb _ ih => rw [List.exists_mem_cons_iff, List.exists_mem_cons_iff, hstep a b hb, ih]

theorem mapM_eq_mapM {f : α → Except ε γ} {g : β → Except ε γ} {members : List α} {others : List β}
    (h : List.Forall₂ (fun a b => f a = g b) members others) : members.mapM f = others.mapM g := by
  induction h with
  | nil => rfl
  | cons hfirst _ ih => rw [List.mapM_cons, List.mapM_cons, hfirst, ih]

/-! ## Computations that are alike -/

/-- The same failure, or values that are related. -/
inductive Alike (R : α → β → Prop) : Except ε α → Except ε β → Prop
  | failure (failure : ε) : Alike R (.error failure) (.error failure)
  | value {a : α} {b : β} : R a b → Alike R (.ok a) (.ok b)

namespace Alike

variable {R : α → β → Prop} {S : γ → δ → Prop}

theorem bind {x : Except ε α} {y : Except ε β} {f : α → Except ε γ} {g : β → Except ε δ} (h : Alike R x y)
    (hnext : ∀ a b, R a b → Alike S (f a) (g b)) : Alike S (x >>= f) (y >>= g) := by
  cases h with
  | failure failure => exact .failure failure
  | value hab => exact hnext _ _ hab

/-- What is computed in the same way from related values is the same. -/
theorem bind_eq {x : Except ε α} {y : Except ε β} {f : α → Except ε γ} {g : β → Except ε γ} (h : Alike R x y)
    (hnext : ∀ a b, R a b → f a = g b) : x >>= f = y >>= g := by
  cases h with
  | failure failure => rfl
  | value hab => exact hnext _ _ hab

end Alike

end Conformance
