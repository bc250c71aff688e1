import Conformance.Proofs.Source.Concatenation
import Conformance.Proofs.Source.Structure
import Mathlib.Data.List.Nodup

/-!
# What the check of a structure accounts for

The check of the structure of a source pairs every bracket and every keyword of a module off with another one, or
tells of it in exactly one error.  The pairs are built up along the tokens: a closing bracket that fits goes with the
innermost open one, and one that does not fit is told of and leaves what is open alone.

Main results:

- `tokenize_pairwise_before`: the tokens of a source stand in the order of their places.
- `Tracks.push`, `Tracks.pop`, `Tracks.skip`: what a token does to the pairs and to what is open.
- `Accounts.run`: along the tokens everything is paired off, still open, or told of.
- `accounted_once`: a bracket or keyword is in one pair or in one error.
- `structureErrors_account`: the pairs and errors of a whole source.
-/

namespace Conformance.Source

open Conformance.Text

/-! ## The order of tokens -/

/-- A place lies before another one. -/
def Place.Before (p q : Place) : Prop :=
  p.line < q.line ∨ p.line = q.line ∧ p.column < q.column

/-- A token begins before another one. -/
def Token.Before (t u : Token) : Prop :=
  t.place.Before u.place

section Order

variable {p q r : Place} {t u v : Token} {before text rest : List CodePoint} {tokens : List Token}

theorem Place.Before.trans (h : p.Before q) (h' : q.Before r) : p.Before r := by
  unfold Place.Before at *
  omega

theorem Place.not_before_self (p : Place) : ¬p.Before p := by
  unfold Place.Before
  omega

theorem Token.Before.trans (h : t.Before u) (h' : u.Before v) : t.Before v :=
  Place.Before.trans h h'

theorem Token.not_before_self (t : Token) : ¬t.Before t :=
  Place.not_before_self t.place

theorem Token.Before.not_before (h : t.Before u) : ¬u.Before t := fun h' =>
  Token.not_before_self t (h.trans h')

theorem Token.Before.ne (h : t.Before u) : t ≠ u := by
  rintro rfl
  exact Token.not_before_self t h

/-- A character moves a place on. -/
theorem Place.before_after (p : Place) (c : CodePoint) : p.Before (p.after c) := by
  unfold Place.Before Place.after
  by_cases hc : c = .char '\n'
  · rw [if_pos hc]
    exact .inl (Nat.lt_succ_self _)
  · rw [if_neg hc]
    exact .inr ⟨rfl, Nat.lt_succ_self _⟩

/-- A text that is not empty moves a place on. -/
theorem Place.before_advance (p : Place) (h : text ≠ []) : p.Before (p.advance text) := by
  induction text generalizing p with
  | nil => exact absurd rfl h
  | cons c text ih =>
      rw [Place.advance_cons]
      by_cases htext : text = []
      · rw [htext, Place.advance_nil]
        exact p.before_after c
      · exact (p.before_after c).trans (ih _ htext)

/-- A lexeme moves the place behind a text on. -/
theorem Lexeme.before_placeBehind {kind : LexemeKind} {piece : List CodePoint} (h : Lexeme kind piece rest)
    (before : List CodePoint) : (placeBehind before).Before (placeBehind (before ++ piece)) := by
  obtain ⟨c, tail, rfl⟩ := h.exists_cons
  rw [placeBehind_append]
  exact Place.before_advance _ (List.cons_ne_nil c tail)

/-- The tokens of a tiling begin behind what stands in front of it, and in order. -/
theorem Tiling.order (h : Tiling before text tokens rest) :
    (∀ t ∈ tokens, t.place = placeBehind before ∨ (placeBehind before).Before t.place) ∧
      tokens.Pairwise Token.Before := by
  induction h with
  | done => exact ⟨nofun, .nil⟩
  | @gap before piece text rest tokens hlexeme _ ih =>
      have hbefore := hlexeme.before_placeBehind before
      refine ⟨fun t ht => .inr ?_, ih.2⟩
      rcases ih.1 t ht with hplace | hplace
      · rwa [hplace]
      · exact hbefore.trans hplace
  | @token kind before piece text rest tokens hlexeme _ ih =>
      have hbefore := hlexeme.before_placeBehind before
      have hlater : ∀ t ∈ tokens, (placeBehind before).Before t.place := by
        intro t ht
        rcases ih.1 t ht with hplace | hplace
        · rwa [hplace]
        · exact hbefore.trans hplace
      exact ⟨List.forall_mem_cons.mpr ⟨.inl rfl, fun t ht => .inr (hlater t ht)⟩, .cons hlater ih.2⟩

/-- The tokens of a source stand in the order of their places. -/
theorem tokenize_pairwise_before {source : Text} (h : tokenize source = .ok tokens) : tokens.Pairwise Token.Before :=
  (tokenize_eq_ok_iff.mp h).order.2

end Order

/-! ## Pairs of tokens -/

/-- The tokens of pairs. -/
def ends (pairs : List (Token × Token)) : List Token :=
  pairs.flatMap fun pair => [pair.1, pair.2]

/-- Pairs of tokens, each of one that opens something and a later one that ends it.  No token is in two pairs, and
no pair begins inside another one and ends outside of it. -/
structure Matching (Fits : Token → Token → Prop) (tokens : List Token) (pairs : List (Token × Token)) : Prop where
  fits : ∀ pair ∈ pairs, Fits pair.1 pair.2
  mem : ∀ t ∈ ends pairs, t ∈ tokens
  later : ∀ pair ∈ pairs, pair.1.Before pair.2
  disjoint : (ends pairs).Nodup
  nested : ∀ pair ∈ pairs, ∀ other ∈ pairs,
    ¬(pair.1.Before other.1 ∧ other.1.Before pair.2 ∧ pair.2.Before other.2)

/-- What is open behind the tokens that have been seen, innermost first, and the pairs among them. -/
structure Tracks (opens : Token → Bool) (Fits : Token → Token → Prop) (seen stack : List Token)
    (pairs : List (Token × Token)) : Prop where
  ordered : seen.Pairwise Token.Before
  matching : Matching Fits seen pairs
  stack_eq : stack.reverse = seen.filter fun t => opens t ∧ t ∉ ends pairs
  /-- Nothing that is open stands inside a pair. -/
  apart : ∀ pair ∈ pairs, ∀ t ∈ stack, ¬(pair.1.Before t ∧ t.Before pair.2)

section Pairs

variable {Fits : Token → Token → Prop} {opens : Token → Bool} {seen stack : List Token} {t u : Token}
  {pairs : List (Token × Token)}

theorem mem_ends_iff : t ∈ ends pairs ↔ ∃ pair ∈ pairs, t = pair.1 ∨ t = pair.2 := by
  simp [ends]

theorem ends_cons (t u : Token) (pairs : List (Token × Token)) : ends ((t, u) :: pairs) = t :: u :: ends pairs :=
  rfl

theorem tracks_nil (opens : Token → Bool) (Fits : Token → Token → Prop) : Tracks opens Fits [] [] [] where
  ordered := .nil
  matching := ⟨nofun, nofun, nofun, .nil, nofun⟩
  stack_eq := rfl
  apart := nofun

namespace Tracks

theorem mem_stack (h : Tracks opens Fits seen stack pairs) (ht : t ∈ stack) :
    t ∈ seen ∧ opens t = true ∧ t ∉ ends pairs := by
  have hmem := List.mem_reverse.mpr ht
  rw [h.stack_eq, List.mem_filter] at hmem
  simpa using hmem

/-- What is open stands in the order of the places, from the outermost to the innermost. -/
theorem pairwise_stack (h : Tracks opens Fits seen stack pairs) : stack.Pairwise fun t u => u.Before t := by
  rw [← List.pairwise_reverse, h.stack_eq]
  exact h.ordered.filter _

/-- A token behind all others is in no pair of theirs. -/
theorem notMem_ends (h : Tracks opens Fits seen stack pairs) (hnew : ∀ s ∈ seen, s.Before t) : t ∉ ends pairs :=
  fun ht => Token.not_before_self t (hnew t (h.matching.mem t ht))

theorem ordered_concat (h : Tracks opens Fits seen stack pairs) (hnew : ∀ s ∈ seen, s.Before t) :
    (seen ++ [t]).Pairwise Token.Before :=
  List.pairwise_append.mpr
    ⟨h.ordered, List.pairwise_singleton _ _, fun s hs _ ht => List.mem_singleton.mp ht ▸ hnew s hs⟩

theorem matching_concat (h : Matching Fits seen pairs) (t : Token) : Matching Fits (seen ++ [t]) pairs :=
  { h with mem := fun u hu => List.mem_append_left _ (h.mem u hu) }

/-- A token that opens nothing leaves what is open alone. -/
theorem skip (h : Tracks opens Fits seen stack pairs) (hnew : ∀ s ∈ seen, s.Before t) (hopens : opens t = false) :
    Tracks opens Fits (seen ++ [t]) stack pairs where
  ordered := h.ordered_concat hnew
  matching := matching_concat h.matching t
  stack_eq := by simp [h.stack_eq, hopens]
  apart := h.apart

/-- A token that opens something is the innermost that is open. -/
theorem push (h : Tracks opens Fits seen stack pairs) (hnew : ∀ s ∈ seen, s.Before t) (hopens : opens t = true) :
    Tracks opens Fits (seen ++ [t]) (t :: stack) pairs where
  ordered := h.ordered_concat hnew
  matching := matching_concat h.matching t
  stack_eq := by simp [h.stack_eq, hopens, h.notMem_ends hnew]
  apart := by
    intro pair hpair u hu
    rcases List.mem_cons.mp hu with rfl | hu
    · rintro ⟨-, hinside⟩
      have hend : pair.2 ∈ seen := h.matching.mem _ (mem_ends_iff.mpr ⟨pair, hpair, .inr rfl⟩)
      exact hinside.not_before (hnew _ hend)
    · exact h.apart pair hpair u hu

/-- A token that ends the innermost that is open goes with it. -/
theorem pop (h : Tracks opens Fits seen (u :: stack) pairs) (hnew : ∀ s ∈ seen, s.Before t)
    (hopens : opens t = false) (hfits : Fits u t) : Tracks opens Fits (seen ++ [t]) stack ((u, t) :: pairs) := by
  obtain ⟨hu, -, hfree⟩ := h.mem_stack List.mem_cons_self
  obtain ⟨hinner, -⟩ := List.pairwise_cons.mp h.pairwise_stack
  have hend : ∀ pair ∈ pairs, pair.2.Before t := fun pair hpair =>
    hnew _ (h.matching.mem _ (mem_ends_iff.mpr ⟨pair, hpair, .inr rfl⟩))
  refine ⟨h.ordered_concat hnew, ?_, ?_, ?_⟩
  · refine ⟨List.forall_mem_cons.mpr ⟨hfits, h.matching.fits⟩, ?_,
      List.forall_mem_cons.mpr ⟨hnew u hu, h.matching.later⟩, ?_, ?_⟩
    · rw [ends_cons]
      refine List.forall_mem_cons.mpr ⟨List.mem_append_left _ hu, List.forall_mem_cons.mpr ⟨by simp, ?_⟩⟩
      exact fun s hs => List.mem_append_left _ (h.matching.mem s hs)
    · rw [ends_cons, List.nodup_cons, List.nodup_cons, List.mem_cons, not_or]
      exact ⟨⟨(hnew u hu).ne, hfree⟩, h.notMem_ends hnew, h.matching.disjoint⟩
    · intro pair hpair other hother
      rcases List.mem_cons.mp hpair with rfl | hpair
      · rcases List.mem_cons.mp hother with rfl | hother
        · exact fun hcross => Token.not_before_self u hcross.1
        · exact fun hcross => (hend other hother).not_before hcross.2.2
      · rcases List.mem_cons.mp hother with rfl | hother
        · exact fun hcross => h.apart pair hpair u List.mem_cons_self ⟨hcross.1, hcross.2.1⟩
        · exact h.matching.nested pair hpair other hother
  · have hfilter : (seen.filter fun s => opens s ∧ s ∉ ends ((u, t) :: pairs)) =
        (seen.filter fun s => opens s ∧ s ∉ ends pairs).filter (· ≠ u) := by
      rw [List.filter_filter]
      refine List.filter_congr fun s hs => ?_
      have hne : s ≠ t := (hnew s hs).ne
      simp only [ends_cons, List.mem_cons, not_or, hne, not_false_eq_true, true_and]
      rw [← Bool.decide_and]
      exact decide_eq_decide.mpr and_left_comm
    have hrest : ∀ s ∈ stack.reverse, (decide (s ≠ u)) = true := fun s hs =>
      decide_eq_true (hinner s (List.mem_reverse.mp hs)).ne
    rw [List.filter_append, hfilter, ← h.stack_eq, List.reverse_cons, List.filter_append,
      List.filter_eq_self.mpr hrest]
    simp [hopens]
  · intro pair hpair s hs
    rcases List.mem_cons.mp hpair with rfl | hpair
    · rintro ⟨hinside, -⟩
      exact hinside.not_before (hinner s hs)
    · exact h.apart pair hpair s (List.mem_cons_of_mem u hs)

end Tracks

theorem notMem_ends_cons_iff {s : Token} (hu : s ≠ u) (ht : s ≠ t) : s ∉ ends ((u, t) :: pairs) ↔ s ∉ ends pairs := by
  simp [ends_cons, hu, ht]

end Pairs

/-! ## Brackets and keywords -/

/-- Whether a token is an opening bracket. -/
def Token.opensBracket (t : Token) : Bool :=
  t.kind == .symbol && [("(" : Text), "[", "\x7b"].contains t.value

/-- Whether a token is a closing bracket. -/
def Token.closesBracket (t : Token) : Bool :=
  t.kind == .symbol && [(")" : Text), "]", "\x7d"].contains t.value

/-- Whether a token is a keyword that opens a module. -/
def Token.opensModule (t : Token) : Bool :=
  t.kind == .identifier && isModuleStart t.value

/-- Whether a token is the keyword that ends a module. -/
def Token.endsModule (t : Token) : Bool :=
  t.kind == .identifier && t.value == moduleEnd

/-- Two tokens are the brackets of a pair. -/
def FitsBracket (t u : Token) : Prop :=
  ∃ b : Bracket, t.kind = .symbol ∧ t.value = b.opening ∧ u.kind = .symbol ∧ u.value = b.closing

/-- Two tokens are the keywords around a module. -/
def FitsModule (t u : Token) : Prop :=
  t.opensModule = true ∧ u.endsModule = true

/-- The classes of a token that its role stands for. -/
inductive Token.Acts (t : Token) : Role → Prop
  | opens (b : Bracket) : t.kind = .symbol → t.value = b.opening → t.opensBracket = true →
      t.closesBracket = false → t.opensModule = false → t.endsModule = false → Token.Acts t (.opens b)
  | closes (b : Bracket) : t.kind = .symbol → t.value = b.closing → t.opensBracket = false →
      t.closesBracket = true → t.opensModule = false → t.endsModule = false → Token.Acts t (.closes b)
  | opensModule : t.kind = .identifier → t.opensBracket = false → t.closesBracket = false → t.opensModule = true →
      t.endsModule = false → Token.Acts t .opensModule
  | closesModule : t.kind = .identifier → t.opensBracket = false → t.closesBracket = false → t.opensModule = false →
      t.endsModule = true → Token.Acts t .closesModule
  | neutral : t.opensBracket = false → t.closesBracket = false → t.opensModule = false → t.endsModule = false →
      Token.Acts t .neutral

theorem Token.isBracket_eq (t : Token) : t.isBracket = (t.opensBracket || t.closesBracket) := by
  unfold isBracket opensBracket closesBracket
  rw [← Bool.and_or_distrib_left]
  congr 1
  rw [Bool.eq_iff_iff]
  simp only [bracketTexts, Bool.or_eq_true, List.contains_iff_mem, List.mem_cons, List.not_mem_nil, or_false]
  exact iff_of_eq (by ac_rfl)

theorem Token.isModuleKeyword_eq (t : Token) : t.isModuleKeyword = (t.opensModule || t.endsModule) := by
  unfold isModuleKeyword opensModule endsModule
  rw [← Bool.and_or_distrib_left]

theorem Token.kind_of_isBracket {t : Token} (h : t.isBracket = true) : t.kind = .symbol := by
  simp only [isBracket, Bool.and_eq_true, beq_iff_eq] at h
  exact h.1

theorem Token.kind_of_isModuleKeyword {t : Token} (h : t.isModuleKeyword = true) : t.kind = .identifier := by
  simp only [isModuleKeyword, Bool.and_eq_true, beq_iff_eq] at h
  exact h.1

/-- A token belongs to the class that its role stands for, and to no other one. -/
theorem Token.acts_role (t : Token) : t.Acts t.role := by
  have hreads := t.reads_role
  generalize t.role = role at hreads
  cases hreads with
  | opens b hbracket hvalue =>
      have hkind := kind_of_isBracket hbracket
      refine .opens b hkind hvalue ?_ ?_ ?_ ?_
      · cases b <;> simp [opensBracket, hkind, hvalue, Bracket.opening]
      · cases b <;> simp [closesBracket, hkind, hvalue, Bracket.opening] <;> decide
      · simp [opensModule, hkind]
      · simp [endsModule, hkind]
  | closes b hbracket hvalue =>
      have hkind := kind_of_isBracket hbracket
      refine .closes b hkind hvalue ?_ ?_ ?_ ?_
      · cases b <;> simp [opensBracket, hkind, hvalue, Bracket.closing] <;> decide
      · cases b <;> simp [closesBracket, hkind, hvalue, Bracket.closing]
      · simp [opensModule, hkind]
      · simp [endsModule, hkind]
  | opensModule hkeyword hstart =>
      have hkind := kind_of_isModuleKeyword hkeyword
      refine .opensModule hkind ?_ ?_ ?_ ?_
      · simp [opensBracket, hkind]
      · simp [closesBracket, hkind]
      · simp [opensModule, hkind, hstart]
      · have hne : t.value ≠ moduleEnd := by
          intro hend
          rw [hend] at hstart
          exact absurd hstart (by decide)
        simp [endsModule, hne]
  | closesModule hkeyword hvalue =>
      have hkind := kind_of_isModuleKeyword hkeyword
      refine .closesModule hkind ?_ ?_ ?_ ?_
      · simp [opensBracket, hkind]
      · simp [closesBracket, hkind]
      · have hend : isModuleStart moduleEnd = false := by decide
        simp [opensModule, hvalue, hend]
      · simp [endsModule, hkind, hvalue]
  | neutral hbracket hkeyword =>
      rw [isBracket_eq, Bool.or_eq_false_iff] at hbracket
      rw [isModuleKeyword_eq, Bool.or_eq_false_iff] at hkeyword
      exact .neutral hbracket.1 hbracket.2 hkeyword.1 hkeyword.2

/-! ## Errors -/

/-- A token ends something and is in no pair. -/
def IsStray (brackets modules : List (Token × Token)) (t : Token) : Prop :=
  t.closesBracket ∧ t ∉ ends brackets ∨ t.endsModule ∧ t ∉ ends modules

instance (brackets modules : List (Token × Token)) (t : Token) : Decidable (IsStray brackets modules t) :=
  inferInstanceAs (Decidable (_ ∨ _))

/-- The error about a token that ends nothing. -/
def Token.strayError (t : Token) : CompileError :=
  t.error (if t.kind = .identifier then "'endmodule' without 'module'" else "unexpected '" ++ t.value ++ "'")

/-- The error about a bracket that is not closed. -/
def Token.unclosedError (t : Token) : CompileError :=
  t.error ("unclosed '" ++ t.value ++ "'")

/-- The error about a module that does not end. -/
def Token.unendedError (t : Token) : CompileError :=
  t.error "'module' without 'endmodule'"

/-- The errors about the tokens that are in no pair: those that end nothing, then the brackets that are not closed,
then the modules that do not end, each in the order of the tokens. -/
def unpairedErrors (brackets modules : List (Token × Token)) (tokens : List Token) : List CompileError :=
  (tokens.filter fun t => IsStray brackets modules t).map Token.strayError ++
    (tokens.filter fun t => t.opensBracket ∧ t ∉ ends brackets).map Token.unclosedError ++
    (tokens.filter fun t => t.opensModule ∧ t ∉ ends modules).map Token.unendedError

/-! ## Along the tokens -/

/-- Behind the tokens that have been seen, each of them that opens or ends something is in a pair, still open, or told
of. -/
structure Accounts (n : Nesting) (seen : List Token) (brackets modules : List (Token × Token)) : Prop where
  openBrackets : Tracks Token.opensBracket FitsBracket seen (n.brackets.map Prod.snd) brackets
  openModules : Tracks Token.opensModule FitsModule seen n.modules modules
  spelled : ∀ entry ∈ n.brackets, entry.2.kind = .symbol ∧ entry.2.value = entry.1.opening
  errors : n.errors.reverse = (seen.filter fun t => IsStray brackets modules t).map Token.strayError

section Accounts

variable {n : Nesting} {seen : List Token} {brackets modules brackets' modules' : List (Token × Token)} {s t u : Token}

theorem accounts_empty : Accounts .empty [] [] [] where
  openBrackets := tracks_nil _ _
  openModules := tracks_nil _ _
  spelled := nofun
  errors := rfl

theorem closesBracket_of_opensBracket (h : t.opensBracket = true) : t.closesBracket = false := by
  have hacts := t.acts_role
  generalize t.role = role at hacts
  cases hacts <;> simp_all

theorem endsModule_of_opensModule (h : t.opensModule = true) : t.endsModule = false := by
  have hacts := t.acts_role
  generalize t.role = role at hacts
  cases hacts <;> simp_all

/-- A pair of brackets does not change what is said of other tokens. -/
theorem isStray_bracket_cons_iff (hu : u.closesBracket = false) (ht : s ≠ t) :
    IsStray ((u, t) :: brackets) modules s ↔ IsStray brackets modules s := by
  refine or_congr_left (and_congr_right fun hcloses => notMem_ends_cons_iff ?_ ht)
  rintro rfl
  exact Bool.false_ne_true (hu.symm.trans hcloses)

/-- A pair of keywords does not change what is said of other tokens. -/
theorem isStray_module_cons_iff (hu : u.endsModule = false) (ht : s ≠ t) :
    IsStray brackets ((u, t) :: modules) s ↔ IsStray brackets modules s := by
  refine or_congr_right (and_congr_right fun hends => notMem_ends_cons_iff ?_ ht)
  rintro rfl
  exact Bool.false_ne_true (hu.symm.trans hends)

namespace Accounts

/-- A token that is not stray is not told of. -/
theorem errors_keep (h : Accounts n seen brackets modules)
    (hsame : ∀ s ∈ seen, IsStray brackets' modules' s ↔ IsStray brackets modules s)
    (ht : ¬IsStray brackets' modules' t) :
    n.errors.reverse = ((seen ++ [t]).filter fun s => IsStray brackets' modules' s).map Token.strayError := by
  have hfilter : (seen.filter fun s => IsStray brackets' modules' s) =
      seen.filter fun s => IsStray brackets modules s :=
    List.filter_congr fun s hs => decide_eq_decide.mpr (hsame s hs)
  rw [List.filter_append, List.filter_singleton, hfilter, h.errors]
  simp [ht]

/-- A stray token is told of behind all others. -/
theorem errors_concat (h : Accounts n seen brackets modules) (ht : IsStray brackets modules t) :
    (t.strayError :: n.errors).reverse =
      ((seen ++ [t]).filter fun s => IsStray brackets modules s).map Token.strayError := by
  rw [List.filter_append, List.filter_singleton, List.reverse_cons, h.errors]
  simp [ht]

/-- A token that ends nothing is not told of. -/
theorem errors_of_not_ends (h : Accounts n seen brackets modules) (hcloses : t.closesBracket = false)
    (hends : t.endsModule = false) :
    n.errors.reverse = ((seen ++ [t]).filter fun s => IsStray brackets modules s).map Token.strayError :=
  h.errors_keep (fun _ _ => Iff.rfl) (by simp [IsStray, hcloses, hends])

/-- A closing bracket goes with the innermost open one, or is told of. -/
theorem close (h : Accounts n seen brackets modules) (hnew : ∀ s ∈ seen, s.Before t) {b : Bracket}
    (hkind : t.kind = .symbol) (hvalue : t.value = b.closing) (hopens : t.opensBracket = false)
    (hcloses : t.closesBracket = true) (hmodule : t.opensModule = false) (hends : t.endsModule = false) :
    ∃ brackets', Accounts (n.close b t) (seen ++ [t]) brackets' modules := by
  have hstray : IsStray brackets modules t := .inl ⟨hcloses, h.openBrackets.notMem_ends hnew⟩
  have herror : t.error ("unexpected '" ++ t.value ++ "'") = t.strayError := by simp [Token.strayError, hkind]
  have hmodules := h.openModules.skip hnew hmodule
  have htracked := h.openBrackets
  have hspelled := h.spelled
  unfold Nesting.close
  cases hstack : n.brackets with
  | nil =>
      rw [hstack] at htracked hspelled
      rw [herror]
      exact ⟨brackets, ⟨htracked.skip hnew hopens, hmodules, hspelled, h.errors_concat hstray⟩⟩
  | cons entry rest =>
      obtain ⟨innermost, u⟩ := entry
      rw [hstack] at htracked hspelled
      by_cases hfits : innermost = b
      · subst hfits
        rw [List.map_cons] at htracked
        obtain ⟨hukind, huvalue⟩ := hspelled (innermost, u) List.mem_cons_self
        have hucloses := closesBracket_of_opensBracket (htracked.mem_stack List.mem_cons_self).2.1
        refine ⟨(u, t) :: brackets, ?_⟩
        simp only [if_pos]
        refine ⟨htracked.pop hnew hopens ⟨innermost, hukind, huvalue, hkind, hvalue⟩, hmodules, ?_, ?_⟩
        · exact fun entry hentry => hspelled entry (List.mem_cons_of_mem _ hentry)
        · refine h.errors_keep (fun s hs => isStray_bracket_cons_iff hucloses (hnew s hs).ne) ?_
          simp [IsStray, ends_cons, hends]
      · simp only [if_neg hfits, herror]
        exact ⟨brackets, ⟨htracked.skip hnew hopens, hmodules, hspelled, h.errors_concat hstray⟩⟩

/-- A keyword that ends a module goes with the innermost open one, or is told of. -/
theorem endModule (h : Accounts n seen brackets modules) (hnew : ∀ s ∈ seen, s.Before t)
    (hkind : t.kind = .identifier) (hopens : t.opensBracket = false)
    (hcloses : t.closesBracket = false) (hmodule : t.opensModule = false) (hends : t.endsModule = true) :
    ∃ modules', Accounts (n.endModule t) (seen ++ [t]) brackets modules' := by
  have hstray : IsStray brackets modules t := .inr ⟨hends, h.openModules.notMem_ends hnew⟩
  have herror : t.error "'endmodule' without 'module'" = t.strayError := by simp [Token.strayError, hkind]
  have hbrackets := h.openBrackets.skip hnew hopens
  have htracked := h.openModules
  unfold Nesting.endModule
  cases hstack : n.modules with
  | nil =>
      rw [hstack] at htracked
      rw [herror]
      exact ⟨modules, ⟨hbrackets, htracked.skip hnew hmodule, h.spelled, h.errors_concat hstray⟩⟩
  | cons u rest =>
      rw [hstack] at htracked
      have huopens := (htracked.mem_stack List.mem_cons_self).2.1
      refine ⟨(u, t) :: modules, hbrackets, htracked.pop hnew hmodule ⟨huopens, hends⟩, h.spelled, ?_⟩
      refine h.errors_keep (fun s hs => isStray_module_cons_iff (endsModule_of_opensModule huopens) (hnew s hs).ne) ?_
      simp [IsStray, ends_cons, hcloses]

/-- A token keeps the account. -/
theorem step (h : Accounts n seen brackets modules) (hnew : ∀ s ∈ seen, s.Before t) :
    ∃ brackets' modules', Accounts (n.step t) (seen ++ [t]) brackets' modules' := by
  have hacts := t.acts_role
  unfold Nesting.step
  generalize t.role = role at hacts
  cases hacts with
  | opens b hkind hvalue hopens hcloses hmodule hends =>
      exact ⟨brackets, modules, h.openBrackets.push hnew hopens, h.openModules.skip hnew hmodule,
        List.forall_mem_cons.mpr ⟨⟨hkind, hvalue⟩, h.spelled⟩, h.errors_of_not_ends hcloses hends⟩
  | closes b hkind hvalue hopens hcloses hmodule hends =>
      obtain ⟨brackets', h'⟩ := h.close hnew hkind hvalue hopens hcloses hmodule hends
      exact ⟨brackets', modules, h'⟩
  | opensModule _ hopens hcloses hmodule hends =>
      exact ⟨brackets, modules, h.openBrackets.skip hnew hopens, h.openModules.push hnew hmodule, h.spelled,
        h.errors_of_not_ends hcloses hends⟩
  | closesModule hkind hopens hcloses hmodule hends =>
      obtain ⟨modules', h'⟩ := h.endModule hnew hkind hopens hcloses hmodule hends
      exact ⟨brackets, modules', h'⟩
  | neutral hopens hcloses hmodule hends =>
      exact ⟨brackets, modules, h.openBrackets.skip hnew hopens, h.openModules.skip hnew hmodule, h.spelled,
        h.errors_of_not_ends hcloses hends⟩

/-- Tokens in order keep the account. -/
theorem run {tokens : List Token} (h : Accounts n seen brackets modules)
    (hordered : (seen ++ tokens).Pairwise Token.Before) :
    ∃ brackets' modules', Accounts (n.run tokens) (seen ++ tokens) brackets' modules' := by
  induction tokens generalizing n seen brackets modules with
  | nil =>
      rw [List.append_nil]
      exact ⟨brackets, modules, h⟩
  | cons t tokens ih =>
      have hnew : ∀ s ∈ seen, s.Before t := fun s hs =>
        (List.pairwise_append.mp hordered).2.2 s hs t List.mem_cons_self
      obtain ⟨brackets', modules', h'⟩ := h.step hnew
      rw [Nesting.run_cons, List.append_cons]
      exact ih h' (by rwa [← List.append_cons])

/-- All errors of a source are about the tokens that are in no pair. -/
theorem allErrors_eq (h : Accounts n seen brackets modules) : n.allErrors = unpairedErrors brackets modules seen := by
  rw [unpairedErrors, ← h.openBrackets.stack_eq, ← h.openModules.stack_eq, ← h.errors, ← List.map_reverse,
    List.map_map]
  rfl

end Accounts

end Accounts

/-! ## The account of a source -/

/-- The number of pairs that a token is in. -/
def pairsWith (pairs : List (Token × Token)) (t : Token) : Nat :=
  pairs.countP fun pair => pair.1 = t ∨ pair.2 = t

/-- The number of errors at the place of a token. -/
def errorsAt (errors : List CompileError) (t : Token) : Nat :=
  errors.countP fun e => e.line = (t.line : Int) ∧ e.column = (t.column : Int)

section Account

variable {tokens : List Token} {pairs brackets modules : List (Token × Token)} {t u : Token}

theorem pairsWith_append (pairs pairs' : List (Token × Token)) (t : Token) :
    pairsWith (pairs ++ pairs') t = pairsWith pairs t + pairsWith pairs' t :=
  List.countP_append

theorem errorsAt_append (errors errors' : List CompileError) (t : Token) :
    errorsAt (errors ++ errors') t = errorsAt errors t + errorsAt errors' t :=
  List.countP_append

theorem pairsWith_eq_count (h : (ends pairs).Nodup) (t : Token) : pairsWith pairs t = (ends pairs).count t := by
  induction pairs with
  | nil => rfl
  | cons pair pairs ih =>
      obtain ⟨u, v⟩ := pair
      rw [ends_cons, List.nodup_cons, List.nodup_cons] at h
      have hne : u ≠ v := fun huv => h.1 (huv ▸ List.mem_cons_self)
      have hrest : pairsWith pairs t = (ends pairs).count t := ih h.2.2
      unfold pairsWith at hrest ⊢
      rw [ends_cons, List.countP_cons, List.count_cons, List.count_cons, hrest]
      by_cases hu : u = t
      · have hv : v ≠ t := fun hv => hne (hu.trans hv.symm)
        simp [hu, hv]
      · simp [hu]

/-- A token is in one pair or in none. -/
theorem Matching.pairsWith_eq {Fits : Token → Token → Prop} (h : Matching Fits tokens pairs) (t : Token) :
    pairsWith pairs t = if t ∈ ends pairs then 1 else 0 := by
  rw [pairsWith_eq_count h.disjoint]
  split
  case isTrue ht => exact List.count_eq_one_of_mem h.disjoint ht
  case isFalse ht => exact List.count_eq_zero_of_not_mem ht

/-- No two tokens of a source are at one place. -/
theorem eq_of_place_eq (hordered : tokens.Pairwise Token.Before) (ht : t ∈ tokens) (hu : u ∈ tokens)
    (hplace : u.place = t.place) : u = t := by
  have hplaces : (tokens.map Token.place).Nodup := by
    refine List.pairwise_map.mpr (hordered.imp fun {p q} hbefore hsame => ?_)
    rw [Token.Before, hsame] at hbefore
    exact Place.not_before_self q.place hbefore
  exact List.inj_on_of_nodup_map hplaces hu ht hplace

/-- Errors about some of the tokens of a source are at the place of one of them once, if it is among them. -/
theorem errorsAt_map_filter (hordered : tokens.Pairwise Token.Before) (ht : t ∈ tokens) (told : Token → Prop)
    [DecidablePred told] (message : Token → Text) :
    errorsAt ((tokens.filter fun u => told u).map fun u => u.error (message u)) t = if told t then 1 else 0 := by
  have hcount : errorsAt ((tokens.filter fun u => told u).map fun u => u.error (message u)) t =
      (tokens.filter fun u => told u).count t := by
    unfold errorsAt
    rw [List.countP_map, List.count]
    refine List.countP_congr fun u hu => ?_
    simp only [Function.comp_apply, Token.error, decide_eq_true_iff, beq_iff_eq, Int.natCast_inj]
    refine ⟨fun hsame => eq_of_place_eq hordered ht (List.mem_of_mem_filter hu) ?_, fun hsame => hsame ▸ ⟨rfl, rfl⟩⟩
    exact congrArg₂ Place.mk hsame.1 hsame.2
  have hnodup : (tokens.filter fun u => told u).Nodup := (hordered.imp Token.Before.ne : tokens.Nodup).filter _
  rw [hcount]
  split
  case isTrue htold => exact List.count_eq_one_of_mem hnodup (List.mem_filter.mpr ⟨ht, decide_eq_true htold⟩)
  case isFalse htold =>
    exact List.count_eq_zero_of_not_mem fun hmem => htold (of_decide_eq_true (List.mem_filter.mp hmem).2)

theorem FitsBracket.opensBracket (h : FitsBracket t u) : t.opensBracket = true := by
  obtain ⟨b, hkind, hvalue, -⟩ := h
  cases b <;> simp [Token.opensBracket, hkind, hvalue, Bracket.opening]

theorem FitsBracket.closesBracket (h : FitsBracket t u) : u.closesBracket = true := by
  obtain ⟨b, -, -, hkind, hvalue⟩ := h
  cases b <;> simp [Token.closesBracket, hkind, hvalue, Bracket.closing]

/-- Only brackets are in the pairs of brackets. -/
theorem Matching.notMem_brackets (h : Matching FitsBracket tokens brackets) (hopens : t.opensBracket = false)
    (hcloses : t.closesBracket = false) : t ∉ ends brackets := by
  intro ht
  obtain ⟨pair, hpair, rfl | rfl⟩ := mem_ends_iff.mp ht
  · exact Bool.false_ne_true (hopens.symm.trans (h.fits pair hpair).opensBracket)
  · exact Bool.false_ne_true (hcloses.symm.trans (h.fits pair hpair).closesBracket)

/-- Only keywords are in the pairs of keywords. -/
theorem Matching.notMem_modules (h : Matching FitsModule tokens modules) (hopens : t.opensModule = false)
    (hends : t.endsModule = false) : t ∉ ends modules := by
  intro ht
  obtain ⟨pair, hpair, rfl | rfl⟩ := mem_ends_iff.mp ht
  · exact Bool.false_ne_true (hopens.symm.trans (h.fits pair hpair).1)
  · exact Bool.false_ne_true (hends.symm.trans (h.fits pair hpair).2)

/-- A token that opens or ends something is in one pair and not told of, or in no pair and told of once. -/
theorem accounted_once (hordered : tokens.Pairwise Token.Before) (hbrackets : Matching FitsBracket tokens brackets)
    (hmodules : Matching FitsModule tokens modules) (ht : t ∈ tokens)
    (hacts : t.isBracket = true ∨ t.isModuleKeyword = true) :
    pairsWith (brackets ++ modules) t = 1 ∧ errorsAt (unpairedErrors brackets modules tokens) t = 0 ∨
      pairsWith (brackets ++ modules) t = 0 ∧ errorsAt (unpairedErrors brackets modules tokens) t = 1 := by
  have hpairs : pairsWith (brackets ++ modules) t =
      (if t ∈ ends brackets then 1 else 0) + if t ∈ ends modules then 1 else 0 := by
    rw [pairsWith_append, hbrackets.pairsWith_eq, hmodules.pairsWith_eq]
  have herrors : errorsAt (unpairedErrors brackets modules tokens) t =
      (if IsStray brackets modules t then 1 else 0) + (if t.opensBracket ∧ t ∉ ends brackets then 1 else 0) +
        if t.opensModule ∧ t ∉ ends modules then 1 else 0 := by
    rw [unpairedErrors, errorsAt_append, errorsAt_append]
    exact congrArg₂ _ (congrArg₂ _ (errorsAt_map_filter hordered ht _ _) (errorsAt_map_filter hordered ht _ _))
      (errorsAt_map_filter hordered ht _ _)
  rw [hpairs, herrors]
  rw [Token.isBracket_eq, Token.isModuleKeyword_eq] at hacts
  have hclass := t.acts_role
  generalize t.role = role at hclass
  cases hclass with
  | opens b _ _ hopens hcloses hmodule hends | closes b _ _ hopens hcloses hmodule hends =>
      have hother := hmodules.notMem_modules hmodule hends
      by_cases hin : t ∈ ends brackets <;> simp [IsStray, hopens, hcloses, hmodule, hends, hother, hin]
  | opensModule _ hopens hcloses hmodule hends | closesModule _ hopens hcloses hmodule hends =>
      have hother := hbrackets.notMem_brackets hopens hcloses
      by_cases hin : t ∈ ends modules <;> simp [IsStray, hopens, hcloses, hmodule, hends, hother, hin]
  | neutral hopens hcloses hmodule hends => simp [hopens, hcloses, hmodule, hends] at hacts

/-- The tokens of a source can be paired off such that every bracket and every keyword of a module is in exactly one
pair or told of in exactly one error, and that the errors are those about the tokens that are in no pair. -/
theorem structureErrors_account {source : Text} (h : tokenize source = .ok tokens) :
    ∃ brackets modules, Matching FitsBracket tokens brackets ∧ Matching FitsModule tokens modules ∧
      structureErrors tokens = unpairedErrors brackets modules tokens ∧
      ∀ t ∈ tokens, t.isBracket = true ∨ t.isModuleKeyword = true →
        pairsWith (brackets ++ modules) t = 1 ∧ errorsAt (structureErrors tokens) t = 0 ∨
          pairsWith (brackets ++ modules) t = 0 ∧ errorsAt (structureErrors tokens) t = 1 := by
  have hordered := tokenize_pairwise_before h
  obtain ⟨brackets, modules, haccounts⟩ := accounts_empty.run ((List.nil_append tokens).symm ▸ hordered)
  rw [List.nil_append] at haccounts
  have hbrackets := haccounts.openBrackets.matching
  have hmodules := haccounts.openModules.matching
  refine ⟨brackets, modules, hbrackets, hmodules, haccounts.allErrors_eq, fun t ht hacts => ?_⟩
  rw [structureErrors, haccounts.allErrors_eq]
  exact accounted_once hordered hbrackets hmodules ht hacts

/-- A bracket that does not fit is told of and leaves what is open alone, and a keyword that ends a module goes with
one across brackets. -/
theorem structureErrors_account_crooked :
    ∃ tokens, tokenize "( ] module ) endmodule [ endmodule" = .ok tokens ∧
      (structureErrors tokens).map (·.message) = ["unexpected ']'", "'endmodule' without 'module'", "unclosed '['"] ∧
      ∃ brackets modules, Matching FitsBracket tokens brackets ∧ Matching FitsModule tokens modules ∧
        structureErrors tokens = unpairedErrors brackets modules tokens ∧
        ∀ t ∈ tokens, t.isBracket = true ∨ t.isModuleKeyword = true →
          pairsWith (brackets ++ modules) t = 1 ∧ errorsAt (structureErrors tokens) t = 0 ∨
            pairsWith (brackets ++ modules) t = 0 ∧ errorsAt (structureErrors tokens) t = 1 := by
  have htokens : tokenize "( ] module ) endmodule [ endmodule" =
      .ok [⟨.symbol, "(", 1, 1⟩, ⟨.symbol, "]", 1, 3⟩, ⟨.identifier, "module", 1, 5⟩, ⟨.symbol, ")", 1, 12⟩,
        ⟨.identifier, "endmodule", 1, 14⟩, ⟨.symbol, "[", 1, 24⟩, ⟨.identifier, "endmodule", 1, 26⟩] := by
    decide +kernel
  exact ⟨_, htokens, by decide +kernel, structureErrors_account htokens⟩

end Account

end Conformance.Source
