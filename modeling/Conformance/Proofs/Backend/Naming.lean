import Conformance.Proofs.Backend.Reference
import Conformance.Proofs.Source.Matching
import Mathlib.Data.List.Chain

/-!
# The name in the tree of a source

The tree of an accepted source holds a single name.  A keyword names a module if an identifier stands directly behind
it among the tokens, whatever blanks and comments stand between them; a source goes by the name behind the first such
keyword of a class, or by a stand-in if there is none.

The tree goes by the keyword `module` alone.  The check of the structure, however, also lets `macromodule` open a
module.  So the tree gives the name of the first module that the check finds, unless a `macromodule` with a name stands
in front of every `module` with one; then that name is lost, and what the tree holds agrees with it only by chance.

Main results:

- `Source.firstNeighbours_cons_cons_iff`: the first neighbours in a relation, one element at a time.
- `Source.goesBy_moduleName`: the scan for a name finds the one that a source goes by.
- `Source.goesBy_opensModule_iff`: when the names behind both classes of keywords are the same.
- `Backend.Reference.ast_goesBy`: the name in the tree of an accepted source.
-/

namespace Conformance

namespace Source

open Text

/-! ## First neighbours -/

section Neighbours

variable {α : Type} {R S : α → α → Prop} {list front rest : List α} {u v x y : α}

/-- Two elements of a list stand directly behind one another and are related, and up to the first of them no other
neighbours are. -/
def FirstNeighbours (R : α → α → Prop) (list : List α) (x y : α) : Prop :=
  ∃ front rest, list = front ++ x :: y :: rest ∧ R x y ∧ (front ++ [x]).IsChain fun a b => ¬R a b

theorem head?_concat_of_eq (h : v :: rest = front ++ x :: list) : (front ++ [x]).head? = some v := by
  cases front with
  | nil =>
      obtain ⟨rfl, -⟩ := List.cons.inj h
      rfl
  | cons a front =>
      obtain ⟨rfl, -⟩ := List.cons.inj h
      rfl

/-- The first neighbours are the first two elements, or, if these are not related, the first neighbours behind the
first element. -/
theorem firstNeighbours_cons_cons_iff :
    FirstNeighbours R (u :: v :: rest) x y ↔
      R u v ∧ x = u ∧ y = v ∨ ¬R u v ∧ FirstNeighbours R (v :: rest) x y := by
  constructor
  · rintro ⟨front, more, hlist, hrelated, hchain⟩
    cases front with
    | nil =>
        obtain ⟨rfl, htail⟩ := List.cons.inj hlist
        obtain ⟨rfl, -⟩ := List.cons.inj htail
        exact .inl ⟨hrelated, rfl, rfl⟩
    | cons a front =>
        obtain ⟨rfl, htail⟩ := List.cons.inj hlist
        obtain ⟨hfirst, hbehind⟩ := List.isChain_cons.mp hchain
        exact .inr ⟨hfirst v (head?_concat_of_eq htail), front, more, htail, hrelated, hbehind⟩
  · rintro (⟨hrelated, rfl, rfl⟩ | ⟨hfirst, front, more, htail, hrelated, hchain⟩)
    · exact ⟨[], rest, rfl, hrelated, List.isChain_singleton x⟩
    · refine ⟨u :: front, more, congrArg (u :: ·) htail, hrelated, ?_⟩
      rw [List.cons_append, List.isChain_cons, head?_concat_of_eq htail]
      refine ⟨?_, hchain⟩
      rintro b ⟨⟩
      exact hfirst

theorem FirstNeighbours.related (h : FirstNeighbours R list x y) : R x y := by
  obtain ⟨-, -, -, hrelated, -⟩ := h
  exact hrelated

theorem FirstNeighbours.exists_cons_cons (h : FirstNeighbours R list x y) :
    ∃ u v rest, list = u :: v :: rest := by
  obtain ⟨front, rest, rfl, -⟩ := h
  match front with
  | [] => exact ⟨x, y, rest, rfl⟩
  | [a] => exact ⟨a, x, y :: rest, rfl⟩
  | a :: b :: front => exact ⟨a, b, front ++ x :: y :: rest, rfl⟩

/-- No list has two first neighbours. -/
theorem FirstNeighbours.unique (h : FirstNeighbours R list x y) (h' : FirstNeighbours R list u v) :
    x = u ∧ y = v := by
  induction list with
  | nil =>
      obtain ⟨_, _, _, hnil⟩ := h.exists_cons_cons
      cases hnil
  | cons a tail ih =>
      obtain ⟨_, b, rest, hlist⟩ := h.exists_cons_cons
      cases hlist
      rcases firstNeighbours_cons_cons_iff.mp h with ⟨hrelated, rfl, rfl⟩ | ⟨hfirst, hbehind⟩
      · rcases firstNeighbours_cons_cons_iff.mp h' with ⟨-, rfl, rfl⟩ | ⟨hfirst, -⟩
        · exact ⟨rfl, rfl⟩
        · exact absurd hrelated hfirst
      · rcases firstNeighbours_cons_cons_iff.mp h' with ⟨hrelated, -, -⟩ | ⟨-, hbehind'⟩
        · exact absurd hrelated hfirst
        · exact ih hbehind hbehind'

theorem FirstNeighbours.not_isChain (h : FirstNeighbours R list x y) : ¬list.IsChain fun a b => ¬R a b := by
  obtain ⟨front, rest, rfl, hrelated, -⟩ := h
  intro hchain
  exact (List.isChain_append_cons_cons.mp hchain).2.1 hrelated

/-- A list has first neighbours if it has any. -/
theorem isChain_or_firstNeighbours (R : α → α → Prop) (list : List α) :
    (list.IsChain fun a b => ¬R a b) ∨ ∃ x y, FirstNeighbours R list x y := by
  induction list with
  | nil => exact .inl List.isChain_nil
  | cons u tail ih =>
      cases tail with
      | nil => exact .inl (List.isChain_singleton u)
      | cons v rest =>
          by_cases hrelated : R u v
          · exact .inr ⟨u, v, firstNeighbours_cons_cons_iff.mpr (.inl ⟨hrelated, rfl, rfl⟩)⟩
          · rcases ih with hchain | ⟨x, y, hbehind⟩
            · exact .inl (List.isChain_cons_cons.mpr ⟨hrelated, hchain⟩)
            · exact .inr ⟨x, y, firstNeighbours_cons_cons_iff.mpr (.inr ⟨hrelated, hbehind⟩)⟩

/-- First neighbours in a wider relation are the first ones in a narrower relation that they are in. -/
theorem FirstNeighbours.narrow (h : FirstNeighbours S list x y) (hsub : ∀ a b, R a b → S a b) (hrelated : R x y) :
    FirstNeighbours R list x y := by
  obtain ⟨front, rest, hlist, -, hchain⟩ := h
  exact ⟨front, rest, hlist, hrelated, hchain.imp fun a b hnot hR => hnot (hsub a b hR)⟩

end Neighbours

/-! ## Names behind keywords -/

section Names

variable {opens : Token → Prop} {tokens rest : List Token} {name other : Text} {t u : Token} {source : Text}

/-- A token is the keyword of a spelling. -/
def IsKeyword (word : Text) (t : Token) : Prop :=
  t.kind = .identifier ∧ t.value = word

/-- A token of a class is followed by an identifier. -/
def Names (opens : Token → Prop) (t name : Token) : Prop :=
  opens t ∧ name.kind = .identifier

/-- The name of a source if the tokens of a class open modules: the identifier directly behind the first of them that
an identifier stands directly behind. -/
inductive GoesBy (opens : Token → Prop) (tokens : List Token) : Text → Prop
  | named {opener name : Token} :
      FirstNeighbours (Names opens) tokens opener name → GoesBy opens tokens name.value
  | unnamed : (tokens.IsChain fun t u => ¬Names opens t u) → GoesBy opens tokens "unknown_module"

/-- No source goes by two names. -/
theorem GoesBy.eq (h : GoesBy opens tokens name) (h' : GoesBy opens tokens other) : name = other := by
  cases h with
  | named hfirst =>
      cases h' with
      | named hother => rw [(hfirst.unique hother).2]
      | unnamed hnone => exact absurd hnone hfirst.not_isChain
  | unnamed hnone =>
      cases h' with
      | named hother => exact absurd hnone hother.not_isChain
      | unnamed => rfl

theorem exists_goesBy (opens : Token → Prop) (tokens : List Token) : ∃ name, GoesBy opens tokens name := by
  rcases isChain_or_firstNeighbours (Names opens) tokens with hnone | ⟨opener, name, hfirst⟩
  · exact ⟨_, .unnamed hnone⟩
  · exact ⟨_, .named hfirst⟩

theorem goesBy_front (h : Names opens t u) : GoesBy opens (t :: u :: rest) u.value :=
  .named (firstNeighbours_cons_cons_iff.mpr (.inl ⟨h, rfl, rfl⟩))

theorem GoesBy.behind (h : GoesBy opens (u :: rest) name) (hfront : ¬Names opens t u) :
    GoesBy opens (t :: u :: rest) name := by
  cases h with
  | named hfirst => exact .named (firstNeighbours_cons_cons_iff.mpr (.inr ⟨hfront, hfirst⟩))
  | unnamed hnone => exact .unnamed (List.isChain_cons_cons.mpr ⟨hfront, hnone⟩)

/-- The scan for a name, which looks at texts only, finds the name behind the keyword `module`. -/
theorem goesBy_moduleName (h : ∀ t ∈ tokens, t.value = "module" → t.kind = .identifier) :
    GoesBy (IsKeyword "module") tokens (moduleName tokens) := by
  unfold moduleName
  induction tokens with
  | nil => exact .unnamed List.isChain_nil
  | cons t tail ih =>
      cases tail with
      | nil => exact .unnamed (List.isChain_singleton t)
      | cons next rest =>
          obtain ⟨hfront, hbehind⟩ := List.forall_mem_cons.mp h
          rw [moduleName?_cons_cons]
          by_cases hname : t.value = "module" ∧ next.kind = .identifier
          · rw [if_pos hname]
            exact goesBy_front ⟨⟨hfront hname.1, hname.1⟩, hname.2⟩
          · rw [if_neg hname]
            exact (ih hbehind).behind fun hnames => hname ⟨hnames.1.2, hnames.2⟩

/-! ### Keywords that open a module -/

/-- The keywords that open a module. -/
theorem role_eq_opensModule_iff (t : Token) :
    t.role = .opensModule ↔ IsKeyword "module" t ∨ IsKeyword "macromodule" t := by
  constructor
  · intro hrole
    have hreads := t.reads_role
    rw [hrole] at hreads
    cases hreads with
    | opensModule hkeyword hstart =>
        have hkind := Token.kind_of_isModuleKeyword hkeyword
        simp only [isModuleStart, Bool.or_eq_true, beq_iff_eq] at hstart
        exact hstart.imp (⟨hkind, ·⟩) (⟨hkind, ·⟩)
  · intro hkeyword
    have hkind : t.kind = .identifier := hkeyword.elim And.left And.left
    have hvalue : t.value = "module" ∨ t.value = "macromodule" := hkeyword.imp And.right And.right
    unfold Token.role
    rw [hkind]
    exact if_pos hvalue

/-- A source goes by the same name for both classes of keywords exactly if no `macromodule` takes the first name away
from `module`, or the name that it takes away is spelled like the one that is left. -/
theorem goesBy_opensModule_iff (h : GoesBy (IsKeyword "module") tokens name) :
    GoesBy (·.role = .opensModule) tokens name ↔
      ∀ opener first, FirstNeighbours (Names (·.role = .opensModule)) tokens opener first →
        IsKeyword "macromodule" opener → first.value = name := by
  have hsub : ∀ t u, Names (IsKeyword "module") t u → Names (·.role = .opensModule) t u := fun t u hnames =>
    ⟨(role_eq_opensModule_iff t).mpr (.inl hnames.1), hnames.2⟩
  constructor
  · intro hopens opener first hfirst _
    exact (GoesBy.named hfirst).eq hopens
  · intro hmacro
    rcases isChain_or_firstNeighbours (Names (·.role = .opensModule)) tokens with hnone | ⟨opener, first, hfirst⟩
    · have hunnamed : GoesBy (IsKeyword "module") tokens "unknown_module" :=
        .unnamed (hnone.imp fun t u hnot hnames => hnot (hsub t u hnames))
      rw [h.eq hunnamed]
      exact .unnamed hnone
    · have hvalue : first.value = name := by
        obtain ⟨hrole, hkind⟩ := hfirst.related
        rcases (role_eq_opensModule_iff opener).mp hrole with hmodule | hmacromodule
        · exact (GoesBy.named (hfirst.narrow hsub ⟨hmodule, hkind⟩)).eq h
        · exact hmacro opener first hfirst hmacromodule
      rw [← hvalue]
      exact .named hfirst

/-! ### Tokens of a source -/

/-- What begins like an identifier is one. -/
theorem Lexeme.kind_eq_identifier {kind : TokenKind} {c : CodePoint} {tail rest : List CodePoint}
    (h : Lexeme (.token kind) (c :: tail) rest) (hc : startsIdentifier c = true) : kind = .identifier := by
  cases h with
  | string => exact absurd hc (by decide)
  | identifier => rfl
  | number hdigit =>
      rw [startsIdentifier_of_isAsciiDigit hdigit] at hc
      cases hc
  | symbol hother => exact absurd (.inr (.inr (.inl hc))) hother

/-- No string, number or symbol of a source is spelled like the keyword `module`. -/
theorem kind_of_value_module (h : tokenize source = .ok tokens) :
    ∀ t ∈ tokens, t.value = "module" → t.kind = .identifier := by
  intro t ht hvalue
  have hlexeme := (tokenize_eq_ok_iff.mp h).standsAlone t ht [] endsLine_nil
  rw [hvalue] at hlexeme
  exact hlexeme.kind_eq_identifier (by decide)

end Names

end Source

/-! ## Trees -/

namespace Backend.Reference

open Source Text

variable {source : Text} {tokens : List Token}

theorem ast_compile (r : Reference) (htokens : tokenize source = .ok tokens) (herrors : structureErrors tokens = []) :
    (r.compile source).1.ast = some (.record [("module", .text (moduleName tokens))]) := by
  unfold compile result judge
  rw [htokens]
  simp only [herrors, List.isEmpty_nil, if_true]

/-- The tree of an accepted source holds the identifier directly behind the first `module` that an identifier stands
directly behind, or a stand-in if there is none.  This is the name of the first module that the check of the structure
finds with a name exactly if that one is not opened by `macromodule`, or by chance its name is spelled alike. -/
theorem ast_goesBy (r : Reference) (source : Text) (h : (r.compile source).1.success = true) :
    ∃ tokens name first,
      Tiling [] source.toList tokens [] ∧
      (r.compile source).1.ast = some (.record [("module", .text name)]) ∧
      GoesBy (IsKeyword "module") tokens name ∧
      GoesBy (·.role = .opensModule) tokens first ∧
      (name = first ↔
        ∀ opener behind, FirstNeighbours (Names (·.role = .opensModule)) tokens opener behind →
          IsKeyword "macromodule" opener → behind.value = name) := by
  obtain ⟨tokens, htokens, hnested, hbalanced⟩ := (success_compile_iff r source).mp h
  have hname := goesBy_moduleName (kind_of_value_module htokens)
  obtain ⟨first, hfirst⟩ := exists_goesBy (·.role = .opensModule) tokens
  refine ⟨tokens, moduleName tokens, first, tokenize_eq_ok_iff.mp htokens,
    ast_compile r htokens (structureErrors_eq_nil_iff.mpr ⟨hnested, hbalanced⟩), hname, hfirst, ?_⟩
  rw [← goesBy_opensModule_iff hname]
  constructor
  · rintro rfl
    exact hfirst
  · exact fun hsame => hsame.eq hfirst

/-- The name behind a `macromodule` is passed over for the one behind a later `module`. -/
theorem ast_goesBy_macromodule :
    ((create true).compile "macromodule a; endmodule module /* x */ b; endmodule").1.success = true ∧
      ((create true).compile "macromodule a; endmodule module /* x */ b; endmodule").1.ast =
        some (.record [("module", .text "b")]) ∧
      ∃ tokens, tokenize "macromodule a; endmodule module /* x */ b; endmodule" = .ok tokens ∧
        GoesBy (·.role = .opensModule) tokens "a" := by
  have haccepted :
      ((create true).compile "macromodule a; endmodule module /* x */ b; endmodule").1.success = true := by
    decide +kernel
  have htokens : tokenize "macromodule a; endmodule module /* x */ b; endmodule" =
      .ok [⟨.identifier, "macromodule", 1, 1⟩, ⟨.identifier, "a", 1, 13⟩, ⟨.symbol, ";", 1, 14⟩,
        ⟨.identifier, "endmodule", 1, 16⟩, ⟨.identifier, "module", 1, 26⟩, ⟨.identifier, "b", 1, 41⟩,
        ⟨.symbol, ";", 1, 42⟩, ⟨.identifier, "endmodule", 1, 44⟩] := by decide +kernel
  obtain ⟨tokens, name, first, htiling, hast, hname, -, -⟩ := ast_goesBy _ _ haccepted
  cases htokens.symm.trans (tokenize_eq_ok_iff.mpr htiling)
  have hlater : name = "b" := hname.eq (goesBy_moduleName (kind_of_value_module htokens))
  rw [hlater] at hast
  exact ⟨haccepted, hast, _, htokens, goesBy_front ⟨by decide, rfl⟩⟩

end Backend.Reference

end Conformance
