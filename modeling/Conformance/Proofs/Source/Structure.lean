import Conformance.Proofs.Source.Tiling
import Conformance.Source.Structure

/-!
# The language of well-structured sources

The check of brackets keeps a stack and goes on behind an error; the check of modules keeps the open ones.
This module says which words they accept: the brackets have to be a word of the language of nested pairs, and
the module keywords have to be balanced.

Main results:

- `completes_opening_iff`, `completes_closing_iff`: what a bracket does to the stack is what it does to the
  words that complete it.
- `allErrors_run_eq_nil_iff`: from any state, there are no errors exactly if both words complete it.
- `structureErrors_eq_nil_iff`: there are no errors exactly if both words belong to their languages.
- `KeepsSpelling.structureErrors_map`, `KeepsSpelling.moduleName_map`: only the spelling of tokens counts.
- `category_of_mem_structureErrors`: no error about the structure of a source is one about its tokens.
-/

namespace Conformance.Source

variable {b : Bracket} {stack : List Bracket} {depth : Nat} {value : Text} {word : List Text}

/-! ## The words of brackets and module keywords -/

/-- The text of an opening bracket. -/
def Bracket.opening : Bracket → Text
  | .round => "("
  | .square => "["
  | .curly => "\x7b"

/-- The text of a closing bracket. -/
def Bracket.closing : Bracket → Text
  | .round => ")"
  | .square => "]"
  | .curly => "\x7d"

/-- The texts of all brackets. -/
def bracketTexts : List Text :=
  ["(", ")", "[", "]", "\x7b", "\x7d"]

/-- The keyword that ends a module. -/
def moduleEnd : Text := "endmodule"

/-- Whether a keyword opens a module. -/
def isModuleStart (value : Text) : Bool :=
  value == "module" || value == "macromodule"

/-- Whether a token is a bracket. -/
def Token.isBracket (t : Token) : Bool :=
  t.kind == .symbol && bracketTexts.contains t.value

/-- Whether a token opens or ends a module. -/
def Token.isModuleKeyword (t : Token) : Bool :=
  t.kind == .identifier && (isModuleStart t.value || t.value == moduleEnd)

/-- The texts of the tokens of a class, in order. -/
def wordOf (p : Token → Bool) (tokens : List Token) : List Text :=
  (tokens.filter p).map Token.value

/-- The brackets among tokens. -/
def bracketWord (tokens : List Token) : List Text :=
  wordOf Token.isBracket tokens

/-- The keywords among tokens that open and end modules. -/
def moduleWord (tokens : List Token) : List Text :=
  wordOf Token.isModuleKeyword tokens

/-! ## The languages -/

/-- The language of nested pairs: the empty word, and a pair around a word in front of a word. -/
inductive WellNested : List Text → Prop
  | nil : WellNested []
  | pair (b : Bracket) {inner rest : List Text} :
      WellNested inner → WellNested rest → WellNested (b.opening :: inner ++ b.closing :: rest)

/-- No prefix ends more modules than it opens, and the whole word ends all that it opens. -/
def Balanced (word : List Text) : Prop :=
  (∀ front, front <+: word → front.count moduleEnd ≤ front.countP isModuleStart) ∧
    word.count moduleEnd = word.countP isModuleStart

/-! ## Completing what is open -/

/-- A word completes a stack of open brackets: it closes each of them, the innermost first, behind a nested
word. -/
inductive Completes : List Bracket → List Text → Prop
  | nil {word : List Text} : WellNested word → Completes [] word
  | cons {b : Bracket} {stack : List Bracket} {inner rest : List Text} :
      WellNested inner → Completes stack rest → Completes (b :: stack) (inner ++ b.closing :: rest)

/-- A word completes a number of open modules. -/
def BalancedFrom (depth : Nat) (word : List Text) : Prop :=
  (∀ front, front <+: word → front.count moduleEnd ≤ depth + front.countP isModuleStart) ∧
    word.count moduleEnd = depth + word.countP isModuleStart

theorem balancedFrom_zero : BalancedFrom 0 word ↔ Balanced word := by
  simp only [BalancedFrom, Balanced, Nat.zero_add]

theorem Bracket.closing_ne_opening (b other : Bracket) : b.closing ≠ other.opening := by
  cases b <;> cases other <;> decide

theorem Bracket.opening_injective {b other : Bracket} (h : b.opening = other.opening) : b = other := by
  cases b <;> cases other <;> first | rfl | exact absurd h (by decide)

theorem Bracket.closing_injective {b other : Bracket} (h : b.closing = other.closing) : b = other := by
  cases b <;> cases other <;> first | rfl | exact absurd h (by decide)

/-- Without a word nothing is completed but the empty stack. -/
theorem completes_nil_iff : Completes stack [] ↔ stack = [] := by
  constructor
  · intro h
    generalize hword : ([] : List Text) = word at h
    cases h with
    | nil => rfl
    | cons _ _ => simp at hword
  · rintro rfl
    exact .nil .nil

/-- An opening bracket goes onto the stack. -/
theorem completes_opening_iff : Completes stack (b.opening :: word) ↔ Completes (b :: stack) word := by
  constructor
  · intro h
    generalize hfirst : b.opening :: word = whole at h
    cases h with
    | nil hwhole =>
        cases hwhole with
        | nil => simp at hfirst
        | pair other hinner hrest =>
            obtain ⟨hopening, rfl⟩ := List.cons.inj hfirst
            cases Bracket.opening_injective hopening
            exact .cons hinner (.nil hrest)
    | @cons outer stack inner rest hinner hstack =>
        cases hinner with
        | nil => exact absurd (List.cons.inj hfirst).1.symm (outer.closing_ne_opening b)
        | pair other hpair hrest =>
            rw [List.cons_append, List.cons_append, List.append_assoc] at hfirst
            obtain ⟨hopening, rfl⟩ := List.cons.inj hfirst
            cases Bracket.opening_injective hopening
            exact .cons hpair (.cons hrest hstack)
  · rintro (_ | ⟨hinner, hstack⟩)
    cases hstack with
    | nil hrest => exact .nil (.pair b hinner hrest)
    | @cons outer stack inner' rest hrest hstack =>
        have hwhole : Completes (outer :: stack)
            ((b.opening :: _ ++ b.closing :: inner') ++ outer.closing :: rest) :=
          .cons (.pair b hinner hrest) hstack
        rwa [List.append_assoc] at hwhole

/-- A closing bracket takes the one that it fits off the stack, and nothing else completes a stack. -/
theorem completes_closing_iff :
    Completes stack (b.closing :: word) ↔ ∃ outer, stack = b :: outer ∧ Completes outer word := by
  constructor
  · intro h
    generalize hfirst : b.closing :: word = whole at h
    cases h with
    | nil hwhole =>
        cases hwhole with
        | nil => simp at hfirst
        | pair other _ _ =>
            exact absurd (List.cons.inj hfirst).1 (b.closing_ne_opening other)
    | @cons outer stack inner rest hinner hstack =>
        cases hinner with
        | nil =>
            obtain ⟨hclosing, rfl⟩ := List.cons.inj hfirst
            cases Bracket.closing_injective hclosing
            exact ⟨stack, rfl, hstack⟩
        | pair other _ _ =>
            exact absurd (List.cons.inj hfirst).1 (b.closing_ne_opening other)
  · rintro ⟨outer, rfl, h⟩
    exact .cons .nil h

theorem balancedFrom_nil_iff : BalancedFrom depth [] ↔ depth = 0 := by
  simp only [BalancedFrom, List.prefix_nil, forall_eq, List.count_nil, List.countP_nil]
  omega

/-- What holds of all prefixes of a word behind a keyword. -/
theorem forall_prefix_cons_iff {P : List Text → Prop} :
    (∀ front, front <+: value :: word → P front) ↔ P [] ∧ ∀ front, front <+: word → P (value :: front) := by
  constructor
  · intro h
    exact ⟨h [] List.nil_prefix, fun front hfront => h _ (List.cons_prefix_cons.mpr ⟨rfl, hfront⟩)⟩
  · rintro ⟨hnil, hcons⟩ front hfront
    rcases List.prefix_cons_iff.mp hfront with rfl | ⟨tail, rfl, htail⟩
    · exact hnil
    · exact hcons tail htail

/-- A keyword that opens a module makes the number of open modules larger. -/
theorem balancedFrom_start_iff (h : isModuleStart value = true) :
    BalancedFrom depth (value :: word) ↔ BalancedFrom (depth + 1) word := by
  have hne : value ≠ moduleEnd := by
    rintro rfl
    exact absurd h (by decide)
  unfold BalancedFrom
  simp only [forall_prefix_cons_iff, List.count_cons_of_ne hne, List.countP_cons_of_pos h, List.count_nil,
    Nat.zero_le, true_and, Nat.add_assoc, Nat.add_comm 1]

/-- The keyword that ends a module needs an open one. -/
theorem balancedFrom_end_iff :
    BalancedFrom depth (moduleEnd :: word) ↔ ∃ outer, depth = outer + 1 ∧ BalancedFrom outer word := by
  have hend : ¬isModuleStart moduleEnd = true := by decide
  unfold BalancedFrom
  simp only [forall_prefix_cons_iff, List.count_cons_self, List.countP_cons_of_neg hend, List.count_nil, Nat.zero_le,
    true_and]
  constructor
  · rintro ⟨hfront, hwhole⟩
    have hfirst := hfront [] List.nil_prefix
    rw [List.count_nil, List.countP_nil] at hfirst
    refine ⟨depth - 1, by omega, fun front hprefix => ?_, by omega⟩
    have hcount := hfront front hprefix
    omega
  · rintro ⟨outer, rfl, hfront, hwhole⟩
    refine ⟨fun front hprefix => ?_, by omega⟩
    have hcount := hfront front hprefix
    omega

/-! ## What tokens do to the words -/

variable {p : Token → Bool} {t : Token} {tokens others rest : List Token}

theorem wordOf_cons (h : p t = true) : wordOf p (t :: rest) = t.value :: wordOf p rest := by
  rw [wordOf, List.filter_cons_of_pos h, List.map_cons, wordOf]

theorem wordOf_cons_of_not (h : p t = false) : wordOf p (t :: rest) = wordOf p rest := by
  rw [wordOf, List.filter_cons_of_neg (by simp [h]), wordOf]

theorem wordOf_append (p : Token → Bool) (tokens rest : List Token) :
    wordOf p (tokens ++ rest) = wordOf p tokens ++ wordOf p rest := by
  simp [wordOf]

/-- Words do not depend on places if the class of their tokens does not. -/
theorem wordOf_of_spelling {q : TokenKind × Text → Bool} (hp : ∀ t, p t = q t.spelling)
    (h : tokens.map Token.spelling = others.map Token.spelling) : wordOf p tokens = wordOf p others := by
  have hword : ∀ list : List Token, wordOf p list = ((list.map Token.spelling).filter q).map Prod.snd := by
    intro list
    rw [List.filter_map, List.map_map, wordOf, funext hp]
    rfl
  rw [hword, hword, h]

/-- The brackets among tokens do not depend on places. -/
theorem bracketWord_of_spelling (h : tokens.map Token.spelling = others.map Token.spelling) :
    bracketWord tokens = bracketWord others :=
  wordOf_of_spelling (q := fun s => s.1 == .symbol && bracketTexts.contains s.2) (fun _ => rfl) h

/-- The module keywords among tokens do not depend on places. -/
theorem moduleWord_of_spelling (h : tokens.map Token.spelling = others.map Token.spelling) :
    moduleWord tokens = moduleWord others :=
  wordOf_of_spelling (q := fun s => s.1 == .identifier && (isModuleStart s.2 || s.2 == moduleEnd))
    (fun _ => rfl) h

/-- A bracket is no keyword. -/
theorem isModuleKeyword_of_isBracket (h : t.isBracket = true) : t.isModuleKeyword = false := by
  simp only [Token.isBracket, Bool.and_eq_true, beq_iff_eq] at h
  simp [Token.isModuleKeyword, h.1]

/-- A keyword is no bracket. -/
theorem isBracket_of_isModuleKeyword (h : t.isModuleKeyword = true) : t.isBracket = false := by
  rw [Bool.eq_false_iff]
  intro hbracket
  rw [isModuleKeyword_of_isBracket hbracket] at h
  exact Bool.false_ne_true h

/-- The role of a token, read off its kind and its text. -/
inductive Token.Reads (t : Token) : Role → Prop
  | opens (b : Bracket) : t.isBracket = true → t.value = b.opening → Token.Reads t (.opens b)
  | closes (b : Bracket) : t.isBracket = true → t.value = b.closing → Token.Reads t (.closes b)
  | opensModule :
      t.isModuleKeyword = true → isModuleStart t.value = true → Token.Reads t .opensModule
  | closesModule : t.isModuleKeyword = true → t.value = moduleEnd → Token.Reads t .closesModule
  | neutral : t.isBracket = false → t.isModuleKeyword = false → Token.Reads t .neutral

theorem symbolRole_opening (b : Bracket) : symbolRole b.opening = .opens b := by
  cases b <;> decide

theorem symbolRole_closing (b : Bracket) : symbolRole b.closing = .closes b := by
  cases b <;> decide

theorem symbolRole_of_not_mem (h : value ∉ bracketTexts) : symbolRole value = .neutral := by
  simp only [bracketTexts, List.mem_cons, List.not_mem_nil, or_false, not_or] at h
  obtain ⟨hround, hround', hsquare, hsquare', hcurly, hcurly'⟩ := h
  rw [symbolRole, if_neg hround, if_neg hsquare, if_neg hcurly, if_neg hround', if_neg hsquare',
    if_neg hcurly']

theorem opening_or_closing_of_mem (h : value ∈ bracketTexts) :
    ∃ b : Bracket, value = b.opening ∨ value = b.closing := by
  simp only [bracketTexts, List.mem_cons, List.not_mem_nil, or_false] at h
  rcases h with rfl | rfl | rfl | rfl | rfl | rfl
  · exact ⟨.round, .inl rfl⟩
  · exact ⟨.round, .inr rfl⟩
  · exact ⟨.square, .inl rfl⟩
  · exact ⟨.square, .inr rfl⟩
  · exact ⟨.curly, .inl rfl⟩
  · exact ⟨.curly, .inr rfl⟩

theorem Token.reads_symbol (h : t.kind = .symbol) : t.Reads (symbolRole t.value) := by
  by_cases hmem : t.value ∈ bracketTexts
  · have hbracket : t.isBracket = true := by simp [Token.isBracket, h, hmem]
    obtain ⟨b, hvalue | hvalue⟩ := opening_or_closing_of_mem hmem
    · rw [hvalue, symbolRole_opening]
      exact .opens b hbracket hvalue
    · rw [hvalue, symbolRole_closing]
      exact .closes b hbracket hvalue
  · rw [symbolRole_of_not_mem hmem]
    exact .neutral (by simp [Token.isBracket, hmem]) (by simp [Token.isModuleKeyword, h])

theorem Token.reads_identifier (h : t.kind = .identifier) : t.Reads (wordRole t.value) := by
  have hbracket : t.isBracket = false := by simp [Token.isBracket, h]
  have hkeyword : t.isModuleKeyword = (isModuleStart t.value || t.value == moduleEnd) := by
    simp [Token.isModuleKeyword, h]
  unfold wordRole
  split
  · rename_i hstart
    have hstart : isModuleStart t.value = true := by simpa [isModuleStart] using hstart
    exact .opensModule (by rw [hkeyword, hstart, Bool.true_or]) hstart
  split
  · rename_i hend
    exact .closesModule (by rw [hkeyword, hend]; decide) hend
  · refine .neutral hbracket ?_
    rw [hkeyword]
    simp_all [isModuleStart, moduleEnd]

/-- A token has the role that its kind and its text give it. -/
theorem Token.reads_role (t : Token) : t.Reads t.role := by
  unfold Token.role
  split
  · rename_i hkind
    exact Token.reads_identifier hkind
  · rename_i hkind
    exact Token.reads_symbol hkind
  · rename_i hkind
    exact .neutral (by simp [Token.isBracket, hkind]) (by simp [Token.isModuleKeyword, hkind])
  · rename_i hkind
    exact .neutral (by simp [Token.isBracket, hkind]) (by simp [Token.isModuleKeyword, hkind])

/-! ## Checking -/

namespace Nesting

/-- There are no errors at the end of a source if there were none on the way and nothing is open. -/
theorem allErrors_eq_nil_iff {n : Nesting} :
    n.allErrors = [] ↔ n.errors = [] ∧ n.brackets = [] ∧ n.modules = [] := by
  simp [allErrors]

/-- A state is clear of errors on the way, and the rest of a source completes what is open in it. -/
def ClearedBy (n : Nesting) (tokens : List Token) : Prop :=
  n.errors = [] ∧ Completes (n.brackets.map Prod.fst) (bracketWord tokens) ∧
    BalancedFrom n.modules.length (moduleWord tokens)

theorem clearedBy_nil {n : Nesting} : n.ClearedBy [] ↔ n.allErrors = [] := by
  simp only [ClearedBy, bracketWord, moduleWord, wordOf, List.filter_nil, List.map_nil, completes_nil_iff,
    balancedFrom_nil_iff, List.map_eq_nil_iff, List.length_eq_zero_iff, allErrors_eq_nil_iff]

theorem clearedBy_close {n : Nesting} (hbracket : t.isBracket = true) (hvalue : t.value = b.closing) :
    (n.close b t).ClearedBy rest ↔ n.ClearedBy (t :: rest) := by
  unfold ClearedBy bracketWord moduleWord
  rw [wordOf_cons hbracket, wordOf_cons_of_not (isModuleKeyword_of_isBracket hbracket), hvalue,
    completes_closing_iff]
  cases hn : n.brackets with
  | nil => simp [close, hn]
  | cons top brackets =>
      obtain ⟨innermost, place⟩ := top
      by_cases hfits : innermost = b
      · simp [close, hn, hfits]
      · simp [close, hn, hfits]

theorem clearedBy_endModule {n : Nesting} (hkeyword : t.isModuleKeyword = true)
    (hvalue : t.value = moduleEnd) :
    (n.endModule t).ClearedBy rest ↔ n.ClearedBy (t :: rest) := by
  unfold ClearedBy bracketWord moduleWord
  rw [wordOf_cons_of_not (isBracket_of_isModuleKeyword hkeyword), wordOf_cons hkeyword, hvalue,
    balancedFrom_end_iff]
  cases hn : n.modules with
  | nil => simp [endModule, hn]
  | cons innermost modules => simp [endModule, hn]

/-- Taking in a token is right: the rest of a source completes what is then open exactly if the token and
the rest complete what was open. -/
theorem clearedBy_step (n : Nesting) (t : Token) (rest : List Token) :
    (n.step t).ClearedBy rest ↔ n.ClearedBy (t :: rest) := by
  have hreads := t.reads_role
  unfold step
  generalize t.role = role at hreads
  cases hreads with
  | opens b hbracket hvalue =>
      simp only [ClearedBy, bracketWord, moduleWord, List.map_cons]
      rw [wordOf_cons hbracket, wordOf_cons_of_not (isModuleKeyword_of_isBracket hbracket), hvalue,
        completes_opening_iff]
  | closes b hbracket hvalue => exact clearedBy_close hbracket hvalue
  | opensModule hkeyword hstart =>
      simp only [ClearedBy, bracketWord, moduleWord, List.length_cons]
      rw [wordOf_cons_of_not (isBracket_of_isModuleKeyword hkeyword), wordOf_cons hkeyword,
        balancedFrom_start_iff hstart]
  | closesModule hkeyword hvalue => exact clearedBy_endModule hkeyword hvalue
  | neutral hbracket hkeyword =>
      simp only [ClearedBy, bracketWord, moduleWord]
      rw [wordOf_cons_of_not hbracket, wordOf_cons_of_not hkeyword]

/-- Behind a whole source there are no errors exactly if it completes the state in front of it. -/
theorem allErrors_run_eq_nil_iff (n : Nesting) (tokens : List Token) :
    (n.run tokens).allErrors = [] ↔ n.ClearedBy tokens := by
  induction tokens generalizing n with
  | nil => rw [run_nil, clearedBy_nil]
  | cons t rest ih => rw [run_cons, ih, clearedBy_step]

end Nesting

/-- A source has no errors in its structure exactly if its brackets are nested and its modules balanced. -/
theorem structureErrors_eq_nil_iff {tokens : List Token} :
    structureErrors tokens = [] ↔ WellNested (bracketWord tokens) ∧ Balanced (moduleWord tokens) := by
  have hempty : ∀ word, Completes [] word ↔ WellNested word := by
    intro word
    exact ⟨fun h => by cases h; assumption, .nil⟩
  rw [structureErrors, Nesting.allErrors_run_eq_nil_iff, Nesting.ClearedBy]
  simp only [Nesting.empty, List.map_nil, List.length_nil, true_and, hempty, balancedFrom_zero]

/-! ## Tokens that are spelled alike -/

/-- Changing tokens does not change how they are spelled, and it changes the errors about them in one way. -/
structure KeepsSpelling (f : Token → Token) (g : CompileError → CompileError) : Prop where
  spelling : ∀ t, (f t).spelling = t.spelling
  error : ∀ t message, (f t).error message = g (t.error message)

/-- What is open and was told, with other tokens and errors in the place of its own. -/
def Nesting.map (f : Token → Token) (g : CompileError → CompileError) (n : Nesting) : Nesting where
  brackets := n.brackets.map fun (b, t) => (b, f t)
  modules := n.modules.map f
  errors := n.errors.map g

namespace KeepsSpelling

variable {f : Token → Token} {g : CompileError → CompileError}

theorem kind_eq (h : KeepsSpelling f g) (t : Token) : (f t).kind = t.kind :=
  congrArg Prod.fst (h.spelling t)

theorem value_eq (h : KeepsSpelling f g) (t : Token) : (f t).value = t.value :=
  congrArg Prod.snd (h.spelling t)

theorem role_eq (h : KeepsSpelling f g) (t : Token) : (f t).role = t.role := by
  unfold Token.role
  rw [h.kind_eq, h.value_eq]

theorem close_map (h : KeepsSpelling f g) (n : Nesting) (b : Bracket) (t : Token) :
    (n.map f g).close b (f t) = (n.close b t).map f g := by
  obtain ⟨brackets, modules, errors⟩ := n
  unfold Nesting.close
  cases brackets with
  | nil => simp [Nesting.map, h.value_eq, h.error]
  | cons first brackets =>
      by_cases hfits : first.1 = b
      · simp [Nesting.map, hfits]
      · simp [Nesting.map, hfits, h.value_eq, h.error]

theorem endModule_map (h : KeepsSpelling f g) (n : Nesting) (t : Token) :
    (n.map f g).endModule (f t) = (n.endModule t).map f g := by
  obtain ⟨brackets, modules, errors⟩ := n
  unfold Nesting.endModule
  cases modules with
  | nil => simp [Nesting.map, h.error]
  | cons first modules => simp [Nesting.map]

/-- A token does the same with another token in its place. -/
theorem step_map (h : KeepsSpelling f g) (n : Nesting) (t : Token) :
    (n.map f g).step (f t) = (n.step t).map f g := by
  unfold Nesting.step
  rw [h.role_eq]
  cases t.role with
  | opens b => rfl
  | closes b => exact h.close_map n b t
  | opensModule => rfl
  | closesModule => exact h.endModule_map n t
  | neutral => rfl

theorem run_map (h : KeepsSpelling f g) (n : Nesting) (tokens : List Token) :
    (n.map f g).run (tokens.map f) = (n.run tokens).map f g := by
  induction tokens generalizing n with
  | nil => rfl
  | cons t rest ih => rw [List.map_cons, Nesting.run_cons, h.step_map, ih, Nesting.run_cons]

theorem allErrors_map (h : KeepsSpelling f g) (n : Nesting) : (n.map f g).allErrors = n.allErrors.map g := by
  unfold Nesting.allErrors Nesting.map
  simp only [List.map_append, List.map_reverse, List.map_map, Function.comp_def, h.error, h.value_eq]

/-- The errors of other tokens that are spelled alike are the errors, changed. -/
theorem structureErrors_map (h : KeepsSpelling f g) (tokens : List Token) :
    structureErrors (tokens.map f) = (structureErrors tokens).map g := by
  have hempty : Nesting.empty.map f g = Nesting.empty := rfl
  unfold structureErrors
  rw [← h.allErrors_map, ← h.run_map, hempty]

/-- The name of a source depends on how its tokens are spelled. -/
theorem moduleName_map (h : KeepsSpelling f g) (tokens : List Token) :
    moduleName (tokens.map f) = moduleName tokens := by
  unfold moduleName
  congr 1
  induction tokens with
  | nil => rfl
  | cons t tail ih =>
      cases tail with
      | nil => rfl
      | cons next rest =>
          rw [List.map_cons] at ih
          rw [List.map_cons, List.map_cons, moduleName?_cons_cons, moduleName?_cons_cons, h.value_eq, h.kind_eq,
            h.value_eq, ih]

end KeepsSpelling

/-- Every error about the structure of a source says that it is one. -/
theorem category_of_mem_structureErrors {tokens : List Token} {e : CompileError}
    (h : e ∈ structureErrors tokens) : e.category = .syntactic := by
  have hkeeps : KeepsSpelling id fun e => { e with category := .syntactic } := ⟨fun _ => rfl, fun _ _ => rfl⟩
  have hsame := hkeeps.structureErrors_map tokens
  rw [List.map_id] at hsame
  rw [hsame] at h
  obtain ⟨told, -, rfl⟩ := List.mem_map.mp h
  rfl

end Conformance.Source
