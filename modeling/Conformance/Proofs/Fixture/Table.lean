import Conformance.Proofs.Fixture.Directive
import Conformance.Proofs.Keyed
import Mathlib.Data.List.Forall2
import Mathlib.Data.List.Induction
import Mathlib.Logic.Function.Basic

/-!
# Tables of directives

Directives can be added to a parser and replaced in it.  A table keeps every directive where it was first registered,
with the handler that was registered last, and gives a line to the first directive that it begins with.  So a new
directive gets only lines that nobody got before, and a parser does not see what is registered on others.

Main results:

- `DirectiveTable.lists_registerAll`: what a table holds after registrations.
- `DirectiveTable.parse_eq_foldl_perform`: who the lines of a block are given to.
- `DirectiveTable.sameFor_parse_register`: a new directive in a table.
- `tablesAfter_dispatch_frame`: all of this for parsers that are registered on in turn.
-/

namespace Conformance.Fixture

open Text

namespace DirectiveTable

variable {σ τ ρ : Type} {start other : List CodePoint} {handler old : Handler σ}
  {handlers history : List (List CodePoint × Handler σ)}

/-! ## Entries -/

/-- A handler is put under a text like any entry under its key. -/
theorem assign_eq_alter (start : List CodePoint) (handler : Handler σ) (handlers : List (List CodePoint × Handler σ)) :
    assign start handler handlers = Keyed.alter start (fun _ => handler) handlers := by
  induction handlers with
  | nil => rfl
  | cons entry rest ih =>
      rw [assign, Keyed.alter, ih]
      by_cases h : entry.1 = start
      · rw [if_pos h, if_pos h, h]
      · rw [if_neg h, if_neg h]

/-! ## Registrations -/

/-- The handler that was last registered under a text. -/
def IsLast (history : List (List CodePoint × Handler σ)) (start : List CodePoint) (handler : Handler σ) : Prop :=
  ∃ earlier later, history = earlier ++ (start, handler) :: later ∧ ∀ entry ∈ later, entry.1 ≠ start

/-- The last registration counts if it is under the text, and else an earlier one. -/
theorem isLast_concat_iff :
    IsLast (history ++ [(start, handler)]) other old ↔
      (other = start ∧ old = handler) ∨ (other ≠ start ∧ IsLast history other old) := by
  constructor
  · rintro ⟨earlier, later, hhistory, hlater⟩
    -- the last registration is the one that counts, or one of those behind it
    rcases later.eq_nil_or_concat with rfl | ⟨between, entry, rfl⟩
    · obtain ⟨-, hentry⟩ := List.append_inj' hhistory rfl
      simp only [List.cons.injEq, Prod.mk.injEq] at hentry
      exact .inl ⟨hentry.1.1.symm, hentry.1.2.symm⟩
    · rw [List.concat_eq_append, ← List.cons_append, ← List.append_assoc] at hhistory
      obtain ⟨rfl, hentry⟩ := List.append_inj' hhistory rfl
      rw [← List.singleton_inj.mp hentry, List.concat_eq_append] at hlater
      refine .inr ⟨?_, earlier, between, rfl, fun e he => hlater e (List.mem_append_left _ he)⟩
      exact Ne.symm (hlater (start, handler) (List.mem_append_right _ List.mem_cons_self))
  · rintro (⟨rfl, rfl⟩ | ⟨hne, earlier, later, rfl, hlater⟩)
    · exact ⟨history, [], rfl, List.forall_mem_nil _⟩
    · refine ⟨earlier, later ++ [(start, handler)], by simp, ?_⟩
      intro entry hentry
      rcases List.mem_append.mp hentry with hentry | hentry
      · exact hlater entry hentry
      · rw [List.mem_singleton.mp hentry]
        exact Ne.symm hne

/-- A table lists what was registered: each text once, in the order in which the texts were first registered, and with
the handler that was last registered under it. -/
structure Lists (t : DirectiveTable σ) (history : List (List CodePoint × Handler σ)) : Prop where
  once : (t.handlers.map Prod.fst).Nodup
  starts_eq : t.handlers.map Prod.fst = (history.map Prod.fst).eraseDups
  mem_iff : ∀ start handler, (start, handler) ∈ t.handlers ↔ IsLast history start handler

/-- One registration more. -/
theorem Lists.assign {t : DirectiveTable σ} (h : t.Lists history) (start : List CodePoint) (handler : Handler σ) :
    Lists ⟨assign start handler t.handlers⟩ (history ++ [(start, handler)]) := by
  have hmem : start ∈ t.handlers.map Prod.fst ↔ start ∈ history.map Prod.fst := by
    rw [h.starts_eq, List.mem_eraseDups]
  rw [assign_eq_alter]
  refine ⟨Keyed.nodup_keys_alter h.once start _, ?_, ?_⟩
  · rw [List.map_append, List.map_singleton, Keyed.eraseDups_concat, ← h.starts_eq]
    dsimp only
    rw [Keyed.keys_alter]
    simp only [hmem]
  · intro other old
    rw [Keyed.mem_alter_iff h.once, isLast_concat_iff, h.mem_iff]

/-- Register handlers in turn. -/
def registerAll (t : DirectiveTable σ) (entries : List (List CodePoint × Handler σ)) : DirectiveTable σ :=
  entries.foldl (fun t entry => ⟨assign entry.1 entry.2 t.handlers⟩) t

theorem lists_registerAll (history : List (List CodePoint × Handler σ)) : (registerAll ⟨[]⟩ history).Lists history := by
  induction history using List.reverseRecOn with
  | nil => exact ⟨List.nodup_nil, rfl, by simp [registerAll, IsLast]⟩
  | append_singleton history entry ih =>
      rw [registerAll, List.foldl_concat]
      exact ih.assign entry.1 entry.2

/-! ## Lines -/

/-- Who a line is given to: the handler of the first text that it begins with, which gets the rest of it, or nobody. -/
inductive GivenTo (handlers : List (List CodePoint × Handler σ)) (line : List CodePoint) :
    Option (Handler σ × List CodePoint) → Prop
  | nobody : (∀ entry ∈ handlers, ¬entry.1 <+: line) → GivenTo handlers line none
  | first {front later : List (List CodePoint × Handler σ)} {start rest : List CodePoint} {handler : Handler σ} :
      handlers = front ++ (start, handler) :: later → (∀ entry ∈ front, ¬entry.1 <+: line) → line = start ++ rest →
        GivenTo handlers line (some (handler, rest))

/-- What becomes of a state if a line is given to somebody. -/
def perform (s : σ) : Option (Handler σ × List CodePoint) → σ
  | some (handler, rest) => handler rest s
  | none => s

/-- Every line is given to one handler at most. -/
theorem givenTo_iff {line : List CodePoint} {call? : Option (Handler σ × List CodePoint)} :
    GivenTo handlers line call? ↔
      call? = (handlerFor line handlers).map fun entry => (entry.2, line.drop entry.1.length) := by
  constructor
  · intro h
    cases h with
    | nobody hnone =>
        have hfind : handlerFor line handlers = none := by
          refine List.find?_eq_none.mpr fun entry hentry => ?_
          simpa using hnone entry hentry
        rw [hfind, Option.map_none]
    | @first front later start rest handler hhandlers hfront hline =>
        have hfind : handlerFor line handlers = some (start, handler) := by
          refine List.find?_eq_some_iff_append.mpr ⟨?_, front, later, hhandlers, ?_⟩
          · simpa using ⟨rest, hline.symm⟩
          · intro entry hentry
            rw [Bool.not_eq_true', Bool.eq_false_iff]
            exact mt List.isPrefixOf_iff_prefix.mp (hfront entry hentry)
        rw [hfind, Option.map_some, hline, List.drop_left]
  · rintro rfl
    cases hfind : handlerFor line handlers with
    | none =>
        refine .nobody fun entry hentry => ?_
        simpa using List.find?_eq_none.mp hfind entry hentry
    | some entry =>
        obtain ⟨start, handler⟩ := entry
        obtain ⟨hstart, front, later, hhandlers, hfront⟩ := List.find?_eq_some_iff_append.mp hfind
        obtain ⟨rest, hrest⟩ := List.isPrefixOf_iff_prefix.mp hstart
        rw [Option.map_some, ← hrest, List.drop_left]
        refine .first hhandlers (fun entry hentry => ?_) rfl
        have hnot := hfront entry hentry
        rw [← hrest, Bool.not_eq_true', Bool.eq_false_iff] at hnot
        exact mt List.isPrefixOf_iff_prefix.mpr hnot

theorem step_eq_perform {t : DirectiveTable σ} {line : List CodePoint} {call? : Option (Handler σ × List CodePoint)}
    (h : GivenTo t.handlers line call?) (s : σ) : t.step s line = perform s call? := by
  rw [givenTo_iff.mp h, step]
  cases handlerFor line t.handlers <;> rfl

/-- The lines of a block are given away one after the other. -/
theorem parse_eq_foldl_perform {t : DirectiveTable σ} {text : Text}
    {calls : List (Option (Handler σ × List CodePoint))}
    (h : List.Forall₂ (GivenTo t.handlers) (blockLines text) calls) (s : σ) :
    t.parse s text = calls.foldl perform s := by
  rw [parse]
  generalize blockLines text = lines at h
  induction h generalizing s with
  | nil => rfl
  | cons hline _ ih => rw [List.foldl_cons, List.foldl_cons, step_eq_perform hline, ih]

/-! ## New directives -/

section Frame

variable {notes : τ → ρ} {s s' : Metadata × τ} {t : DirectiveTable (Metadata × τ)}

/-- Two states hold the same metadata and the same of certain notes. -/
def SameFor (notes : τ → ρ) (s s' : Metadata × τ) : Prop :=
  s.1 = s'.1 ∧ notes s.2 = notes s'.2

/-- What a handler does with the metadata and certain notes depends on nothing else. -/
def WorksOn (notes : τ → ρ) (handler : Handler (Metadata × τ)) : Prop :=
  ∀ rest s s', SameFor notes s s' → SameFor notes (handler rest s) (handler rest s')

/-- A handler leaves the metadata and certain notes alone. -/
def LeavesAlone (notes : τ → ρ) (handler : Handler (Metadata × τ)) : Prop :=
  ∀ rest s, SameFor notes (handler rest s) s

theorem mem_directives {start : Text} : start ∈ t.directives ↔ start.toList ∈ t.handlers.map Prod.fst := by
  rw [directives, List.mem_map, List.mem_map]
  constructor
  · rintro ⟨entry, hentry, rfl⟩
    exact ⟨entry, hentry, rfl⟩
  · rintro ⟨entry, hentry, hstart⟩
    exact ⟨entry, hentry, congrArg Text.ofList hstart⟩

/-- A new directive gets a line only if no other one does. -/
theorem handlerFor_register {start : Text} {handler : Handler (Metadata × τ)} (hnew : start ∉ t.directives)
    (line : List CodePoint) :
    handlerFor line (t.register start handler).handlers =
      (handlerFor line t.handlers).or (handlerFor line [(start.toList, handler)]) := by
  have hhandlers : (t.register start handler).handlers = t.handlers ++ [(start.toList, handler)] :=
    (assign_eq_alter ..).trans (Keyed.alter_of_notMem (mt mem_directives.mpr hnew))
  rw [hhandlers]
  exact List.find?_append

/-- The others make the same of a line as before, and the new one makes nothing of it that they would notice. -/
theorem sameFor_step_register {start : Text} {handler : Handler (Metadata × τ)} (hnew : start ∉ t.directives)
    (hothers : ∀ entry ∈ t.handlers, WorksOn notes entry.2) (halone : LeavesAlone notes handler)
    (h : SameFor notes s s') (line : List CodePoint) :
    SameFor notes ((t.register start handler).step s line) (t.step s' line) := by
  rw [step, step, handlerFor_register hnew]
  cases hfind : handlerFor line t.handlers with
  | some entry =>
      rw [Option.some_or]
      exact hothers entry (List.mem_of_find?_eq_some hfind) _ s s' h
  | none =>
      rw [Option.none_or]
      cases hlast : handlerFor line [(start.toList, handler)] with
      | none => exact h
      | some entry =>
          have hentry : entry = (start.toList, handler) :=
            List.mem_singleton.mp (List.mem_of_find?_eq_some hlast)
          have hkept := halone (line.drop start.toList.length) s
          rw [hentry]
          exact ⟨hkept.1.trans h.1, hkept.2.trans h.2⟩

theorem sameFor_foldl_register {start : Text} {handler : Handler (Metadata × τ)} (hnew : start ∉ t.directives)
    (hothers : ∀ entry ∈ t.handlers, WorksOn notes entry.2) (halone : LeavesAlone notes handler)
    (h : SameFor notes s s') (lines : List (List CodePoint)) :
    SameFor notes (lines.foldl (t.register start handler).step s) (lines.foldl t.step s') := by
  induction lines generalizing s s' with
  | nil => exact h
  | cons line lines ih => exact ih (sameFor_step_register hnew hothers halone h line)

/-- A new directive whose handler leaves alone what the others work on makes no difference to them. -/
theorem sameFor_parse_register {start : Text} {handler : Handler (Metadata × τ)} (hnew : start ∉ t.directives)
    (hothers : ∀ entry ∈ t.handlers, WorksOn notes entry.2) (halone : LeavesAlone notes handler)
    (s : Metadata × τ) (text : Text) :
    SameFor notes ((t.register start handler).parse s text) (t.parse s text) :=
  sameFor_foldl_register hnew hothers halone ⟨rfl, rfl⟩ (blockLines text)

end Frame

end DirectiveTable

/-! ## Parsers -/

section Parsers

variable {σ τ : Type}

/-- A registration on one of the parsers, which are told apart by numbers. -/
structure Registration (σ : Type) where
  parser : Nat
  start : Text
  handler : Handler σ

/-- The entries that were registered on a parser. -/
def registeredOn (parser : Nat) (history : List (Registration σ)) : List (List CodePoint × Handler σ) :=
  (history.filter (·.parser = parser)).map fun r => (r.start.toList, r.handler)

/-- The tables of all parsers after registrations, each of which is made on one of them.  They begin with the same
directives. -/
def tablesAfter (builtIn : DirectiveTable σ) (history : List (Registration σ)) : Nat → DirectiveTable σ :=
  history.foldl (fun tables r => Function.update tables r.parser ((tables r.parser).register r.start r.handler))
    fun _ => builtIn

/-- The table of a parser is what was registered on it, whatever was registered on others in between. -/
theorem tablesAfter_eq (builtIn : DirectiveTable σ) (history : List (Registration σ)) (parser : Nat) :
    tablesAfter builtIn history parser = builtIn.registerAll (registeredOn parser history) := by
  induction history using List.reverseRecOn with
  | nil => rfl
  | append_singleton history r ih =>
      rw [tablesAfter, List.foldl_concat, ← tablesAfter, registeredOn, List.filter_append, List.map_append,
        ← registeredOn]
      by_cases hparser : r.parser = parser
      · subst hparser
        rw [Function.update_self, ih, DirectiveTable.registerAll, DirectiveTable.registerAll]
        simp [DirectiveTable.register]
      · rw [Function.update_of_ne (Ne.symm hparser), ih]
        simp [hparser]

/-- Every parser begins with the directives of a fixture, as if they had been registered on it. -/
theorem tablesAfter_onFirst_eq (history : List (Registration (Metadata × τ))) (parser : Nat) :
    tablesAfter Metadata.table.onFirst history parser =
      DirectiveTable.registerAll ⟨[]⟩ (Metadata.table.onFirst.handlers ++ registeredOn parser history) := by
  have hbuiltIn : (Metadata.table.onFirst : DirectiveTable (Metadata × τ)) =
      DirectiveTable.registerAll ⟨[]⟩ Metadata.table.onFirst.handlers := rfl
  rw [tablesAfter_eq, hbuiltIn, DirectiveTable.registerAll, DirectiveTable.registerAll, DirectiveTable.registerAll,
    List.foldl_append]
  rfl

/-- The directives of a fixture work on the metadata only. -/
theorem worksOn_of_mem_onFirst {ρ : Type} (notes : τ → ρ) {t : DirectiveTable Metadata}
    {entry : List CodePoint × Handler (Metadata × τ)} (h : entry ∈ t.onFirst.handlers) :
    DirectiveTable.WorksOn notes entry.2 := by
  obtain ⟨entry', -, rfl⟩ := List.mem_map.mp h
  rintro rest ⟨m, x⟩ ⟨m', x'⟩ ⟨hm, hx⟩
  exact ⟨congrArg (entry'.2 rest) hm, hx⟩

/-- The directives of a fixture do the same with metadata next to which something else is kept. -/
theorem parse_onFirst (t : DirectiveTable Metadata) (m : Metadata) (notes : τ) (text : Text) :
    t.onFirst.parse (m, notes) text = (t.parse m text, notes) := by
  have hstep : ∀ (m : Metadata) (line : List CodePoint), t.onFirst.step (m, notes) line = (t.step m line, notes) := by
    intro m line
    have hfind : DirectiveTable.handlerFor line (t.onFirst : DirectiveTable (Metadata × τ)).handlers =
        (DirectiveTable.handlerFor line t.handlers).map fun entry =>
          (entry.1, fun value s => (entry.2 value s.1, s.2)) := List.find?_map ..
    rw [DirectiveTable.step, DirectiveTable.step, hfind]
    cases DirectiveTable.handlerFor line t.handlers <;> rfl
  exact List.foldl_hom (fun m => (m, notes)) hstep

/-- Parsers on which directives are registered in turn.  A table lists what was registered on its parser, and a line of
a block is given to the first directive that it begins with, or to nobody.  A new directive that leaves the metadata
alone, and of the notes what the handlers registered before work on, makes no difference to either.  Registrations on
other parsers make none at all, and a parser without any returns the metadata of a fixture. -/
theorem tablesAfter_dispatch_frame {history : List (Registration (Metadata × τ))} {parser : Nat}
    {t : DirectiveTable (Metadata × τ)} (ht : tablesAfter Metadata.table.onFirst history parser = t) :
    t.Lists (Metadata.table.onFirst.handlers ++ registeredOn parser history) ∧
      (∀ line, ∃! call?, DirectiveTable.GivenTo t.handlers line call?) ∧
      (∀ text calls, List.Forall₂ (DirectiveTable.GivenTo t.handlers) (blockLines text) calls →
        ∀ s, t.parse s text = calls.foldl DirectiveTable.perform s) ∧
      (∀ (ρ : Type) (notes : τ → ρ) (start : Text) (handler : Handler (Metadata × τ)), start ∉ t.directives →
        (∀ entry ∈ registeredOn parser history, DirectiveTable.WorksOn notes entry.2) →
        DirectiveTable.LeavesAlone notes handler → ∀ s text,
          DirectiveTable.SameFor notes ((t.register start handler).parse s text) (t.parse s text)) ∧
      (∀ history', registeredOn parser history' = registeredOn parser history → ∀ s text,
        (tablesAfter Metadata.table.onFirst history' parser).parse s text = t.parse s text) ∧
      (registeredOn parser history = [] → ∀ notes text,
        t.parse (Metadata.empty, notes) text = (Metadata.ofText text, notes)) := by
  have hlists : t.Lists (Metadata.table.onFirst.handlers ++ registeredOn parser history) := by
    rw [← ht, tablesAfter_onFirst_eq]
    exact DirectiveTable.lists_registerAll _
  refine ⟨hlists, ?_, ?_, ?_, ?_, ?_⟩
  · intro line
    exact ⟨_, DirectiveTable.givenTo_iff.mpr rfl, fun _ h => DirectiveTable.givenTo_iff.mp h⟩
  · intro text calls hcalls s
    exact DirectiveTable.parse_eq_foldl_perform hcalls s
  · intro ρ notes start handler hnew hothers halone s text
    refine DirectiveTable.sameFor_parse_register hnew ?_ halone s text
    rintro ⟨other, old⟩ hentry
    obtain ⟨earlier, later, hhistory, -⟩ := (hlists.mem_iff other old).mp hentry
    have hmem : (other, old) ∈ Metadata.table.onFirst.handlers ++ registeredOn parser history := by
      rw [hhistory]
      exact List.mem_append_right _ List.mem_cons_self
    rcases List.mem_append.mp hmem with hbuiltIn | hregistered
    · exact worksOn_of_mem_onFirst notes hbuiltIn
    · exact hothers _ hregistered
  · intro history' hsame s text
    rw [← ht, tablesAfter_eq, tablesAfter_eq, hsame]
  · intro hnone notes text
    rw [← ht, tablesAfter_eq, hnone]
    exact parse_onFirst Metadata.table Metadata.empty notes text

/-- A handler that notes the rest of a line. -/
def noting : Handler (Metadata × List (List CodePoint)) :=
  fun rest s => (s.1, s.2 ++ [rest])

/-- Texts that overlap with that of a directive on one parser, and a directive replaced on another one. -/
def overlapping : List (Registration (Metadata × List (List CodePoint))) :=
  [⟨1, ":tag", noting⟩, ⟨2, ":description:", fun _ s => s⟩, ⟨1, ":tags: x", noting⟩, ⟨1, ":tag", noting⟩]

/-- A directive for all lines takes none away from the others. -/
theorem parse_register_overlapping :
    (((tablesAfter Metadata.table.onFirst overlapping 1).register "" noting).parse (Metadata.empty, [])
        "/* :name:\n:tags: x y\n:tagged\n:description: kept\nother\n*/").1 = ⟨"kept", ["x", "y"], false, none⟩ ∧
      ((tablesAfter Metadata.table.onFirst overlapping 0).parse (Metadata.empty, [])
        "/* :name:\n:description: kept") = (⟨"kept", [], false, none⟩, []) := by
  have hworks : DirectiveTable.WorksOn (fun _ => ()) noting := fun _ _ _ h => ⟨h.1, rfl⟩
  have hregistered : ∀ entry ∈ registeredOn 1 overlapping, DirectiveTable.WorksOn (fun _ => ()) entry.2 := by
    have hnoting : ∀ entry ∈ registeredOn 1 overlapping, entry.2 = noting := by
      simp [registeredOn, overlapping]
    intro entry hentry
    rw [hnoting entry hentry]
    exact hworks
  have hframe := (tablesAfter_dispatch_frame rfl).2.2.2.1 Unit (fun _ => ()) "" noting (by decide) hregistered
    (fun _ _ => ⟨rfl, rfl⟩) (Metadata.empty, []) "/* :name:\n:tags: x y\n:tagged\n:description: kept\nother\n*/"
  have hreached : tablesAfter Metadata.table.onFirst overlapping 0 = Metadata.table.onFirst := rfl
  have hdefault := (tablesAfter_dispatch_frame hreached).2.2.2.2.2 rfl [] "/* :name:\n:description: kept"
  refine ⟨?_, ?_⟩
  · rw [hframe.1]
    decide +kernel
  · rw [hreached, hdefault]
    decide

end Parsers

end Conformance.Fixture
