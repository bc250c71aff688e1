import Conformance.Proofs.Failure
import Conformance.Proofs.Telemetry.Event

/-!
# Events that are sent alike

The text of a fixture can stand in an event as the value of a local variable, or among the further values under a key
that says so.  From what is sent it cannot be inferred: events that differ in nothing else, but for the name of the
host, are sent as the same event.

Main results:

- `isSourceKey_text_iff`: the keys under which further values are taken out.
- `changeMap_eq`, `changeMembers_eq`: a difference that the change of a value does not see is gone after it.
- `Overlooks.changeMap`: a difference beside a value stays what it is when the value is changed.
- `hasFrame_scrubEvent_iff`: the frames that are sent.
- `scrubEvent_alike`: events that are alike are sent as the same event, without local variables.
-/

namespace Conformance.Telemetry

open Document Text

variable {name other : Text} {xs ys entries changed : List (Document × Document)} {alike : Document → Document → Prop}

/-! ## Keys -/

/-- The words that announce the text of a fixture as keys. -/
def sourceWords : List (List Char) :=
  ["source".toList, "text".toList, "stdout".toList, "stderr".toList]

/-- What a key announces does not depend on capitals. -/
theorem isSourceKey_text_iff {key : Text} :
    isSourceKey (.text key) = true ↔ ∃ word ∈ sourceWords, Spells word key.toList := by
  have hcases : ∀ word ∈ sourceWords, TwoCased word := by decide
  have hkeys : sourceKeys = sourceWords.map Text.ofChars := rfl
  rw [isSourceKey, List.contains_iff_mem, hkeys, List.mem_map]
  refine exists_congr fun word => and_congr_right fun hword => ?_
  rw [← lower_eq_iff_spells (hcases word hword), lowercase, Text.ofChars, Text.ofList.injEq, eq_comm]

theorem isText_iff {key : Document} : key.isText name = true ↔ key = .text name := by
  cases key with
  | text found => rw [isText, beq_iff_eq, Document.text.injEq]
  | _ => exact iff_of_false Bool.false_ne_true Document.noConfusion

theorem valueOf?_cons_self (value : Document) : valueOf? name ((.text name, value) :: entries) = some value := by
  rw [valueOf?, lookupBy, if_pos (isText_iff.mpr rfl)]

theorem valueOf?_cons_of_ne {key : Document} (h : key ≠ .text name) (value : Document) :
    valueOf? name ((key, value) :: entries) = valueOf? name entries := by
  rw [valueOf?, lookupBy, if_neg (mt isText_iff.mp h), ← valueOf?]

theorem change_cons (f : Document → Document) (key value : Document) :
    change name f ((key, value) :: entries) =
      (key, if key.isText name then f value else value) :: change name f entries :=
  rfl

/-! ## Mappings and lists that are alike -/

/-- The entries of a mapping under other keys. -/
def beside (name : Text) (entries : List (Document × Document)) : List (Document × Document) :=
  entries.filter fun entry => entry.1 ≠ .text name

/-- Entries that differ at most in the value of a key. -/
inductive AlikeUnder (name : Text) (alike : Document → Document → Prop) :
    List (Document × Document) → List (Document × Document) → Prop
  | same (entries : List (Document × Document)) : AlikeUnder name alike entries entries
  | value {a b : Document} (rest : List (Document × Document)) : alike a b →
      AlikeUnder name alike ((.text name, a) :: rest) ((.text name, b) :: rest)
  | behind {key : Document} (value : Document) {xs ys : List (Document × Document)} : key ≠ .text name →
      AlikeUnder name alike xs ys → AlikeUnder name alike ((key, value) :: xs) ((key, value) :: ys)

/-- Mappings whose entries are alike. -/
inductive MapsAlike (alike : List (Document × Document) → List (Document × Document) → Prop) :
    Document → Document → Prop
  | map {xs ys : List (Document × Document)} : alike xs ys → MapsAlike alike (.map xs) (.map ys)

/-- Lists whose members are the same or alike, one by one. -/
inductive ListsAlike (alike : Document → Document → Prop) : Document → Document → Prop
  | list {items others : List Document} :
      List.Forall₂ (fun item other => item = other ∨ alike item other) items others →
        ListsAlike alike (.list items) (.list others)

theorem beside_eq_without (name : Text) (entries : List (Document × Document)) :
    beside name entries = without name entries := by
  refine List.filter_congr fun entry _ => ?_
  rw [decide_not, Bool.eq_iff_iff, Bool.not_eq_true', Bool.not_eq_true', decide_eq_false_iff_not,
    ← Bool.not_eq_true, isText_iff]

/-- Entries that are alike are the same, or the values of the key are alike. -/
theorem AlikeUnder.cases (h : AlikeUnder name alike xs ys) :
    xs = ys ∨ ∃ a b, valueOf? name xs = some a ∧ valueOf? name ys = some b ∧ alike a b := by
  induction h with
  | same entries => exact .inl rfl
  | value rest hvalue => exact .inr ⟨_, _, valueOf?_cons_self _, valueOf?_cons_self _, hvalue⟩
  | behind value hkey _ ih =>
      rcases ih with rfl | ⟨a, b, hx, hy, hvalue⟩
      · exact .inl rfl
      · exact .inr ⟨a, b, (valueOf?_cons_of_ne hkey value).trans hx, (valueOf?_cons_of_ne hkey value).trans hy, hvalue⟩

/-- The difference is gone when another value is put in its place. -/
theorem AlikeUnder.change_eq (h : AlikeUnder name alike xs ys) (value : Document) :
    change name (fun _ => value) xs = change name (fun _ => value) ys := by
  induction h with
  | same entries => rfl
  | value rest _ =>
      have hkey : (Document.text name).isText name = true := isText_iff.mpr rfl
      rw [change_cons, change_cons, if_pos hkey, if_pos hkey]
  | behind _ _ _ ih => rw [change_cons, change_cons, ih]

/-- A mapping under a key is all that is looked at when it is changed. -/
theorem changeMap_eq {alike : List (Document × Document) → List (Document × Document) → Prop}
    {f : List (Document × Document) → Except Failure (List (Document × Document))}
    (h : AlikeUnder name (MapsAlike alike) xs ys) (hf : ∀ inner others, alike inner others → f inner = f others) :
    changeMap name f xs = changeMap name f ys := by
  rcases h.cases with rfl | ⟨_, _, hx, hy, ⟨hinner⟩⟩
  · rfl
  · unfold changeMap
    rw [hx, hy]
    dsimp only
    rw [hf _ _ hinner]
    exact congrArg (f _ >>= ·) (funext fun after => congrArg Except.ok (h.change_eq (.map after)))

/-- The members of a list under a key are all that is looked at when they are changed. -/
theorem changeMembers_eq {f : Document → Except Failure Document} (h : AlikeUnder name (ListsAlike alike) xs ys)
    (hf : ∀ item other, alike item other → f item = f other) : changeMembers name f xs = changeMembers name f ys := by
  rcases h.cases with rfl | ⟨_, _, hx, hy, ⟨hitems⟩⟩
  · rfl
  · rename_i items others
    have hmembers : items.mapM f = others.mapM f :=
      mapM_eq_mapM (hitems.imp fun item other hitem => hitem.elim (congrArg f) (hf item other))
    unfold changeMembers
    rw [hx, hy]
    change (items.mapM f >>= _) = (others.mapM f >>= _)
    rw [hmembers]
    exact congrArg (others.mapM f >>= ·) (funext fun after => congrArg Except.ok (h.change_eq (.list after)))

/-! ## Differences beside a value -/

/-- A difference between entries that does not touch the value of a key, whatever becomes of this value. -/
structure Overlooks (R : List (Document × Document) → List (Document × Document) → Prop) (name : Text) : Prop where
  value : ∀ {xs ys}, R xs ys → valueOf? name xs = valueOf? name ys
  change : ∀ {xs ys} (f : Document → Document), R xs ys → R (change name f xs) (change name f ys)

/-- A difference beside a value stays what it is when the value is changed. -/
theorem Overlooks.changeMap {R : List (Document × Document) → List (Document × Document) → Prop} (hR : Overlooks R name)
    (f : List (Document × Document) → Except Failure (List (Document × Document))) (h : R xs ys) :
    Alike R (changeMap name f xs) (changeMap name f ys) := by
  unfold Telemetry.changeMap
  rw [hR.value h]
  split
  · rename_i inner _
    cases f inner with
    | error failure => exact .failure failure
    | ok after => exact .value (hR.change _ h)
  · exact .value h

theorem overlooks_alikeUnder (hne : other ≠ name) : Overlooks (AlikeUnder name alike) other := by
  have hkey : Document.text name ≠ .text other := fun heq => hne (Document.text.inj heq).symm
  constructor
  · intro xs ys h
    induction h with
    | same entries => rfl
    | value rest _ => rw [valueOf?_cons_of_ne hkey, valueOf?_cons_of_ne hkey]
    | behind value _ _ ih => rw [valueOf?, valueOf?, lookupBy, lookupBy, ← valueOf?, ← valueOf?, ih]
  · intro xs ys f h
    induction h with
    | same entries => exact .same _
    | value rest hvalue =>
        rw [change_cons, change_cons, if_neg (mt isText_iff.mp hkey), if_neg (mt isText_iff.mp hkey)]
        exact .value _ hvalue
    | behind value hbehind _ ih => exact .behind _ hbehind ih

theorem overlooks_beside (hne : other ≠ name) : Overlooks (fun xs ys => beside name xs = beside name ys) other := by
  have hvalue : ∀ entries, valueOf? other entries = valueOf? other (beside name entries) := by
    intro entries
    rw [beside_eq_without, valueOf?_without_of_ne hne]
  have hchange : ∀ (f : Document → Document) entries,
      beside name (change other f entries) = change other f (beside name entries) := by
    intro f entries
    unfold beside change
    rw [List.filter_map]
    rfl
  constructor
  · intro xs ys h
    rw [hvalue xs, hvalue ys, h]
  · intro xs ys f h
    rw [hchange, hchange, h]

/-! ## Parts of events that are alike -/

/-- Frames that differ at most in their local variables. -/
def FramesAlike : Document → Document → Prop :=
  MapsAlike fun xs ys => beside "vars" xs = beside "vars" ys

/-- Exceptions that differ at most in the local variables of their frames. -/
def ExceptionsAlike : Document → Document → Prop :=
  MapsAlike (AlikeUnder "stacktrace" (MapsAlike (AlikeUnder "frames" (ListsAlike FramesAlike))))

/-- Further values that differ at most under keys that announce the text of a fixture, in mappings of mappings too. -/
inductive ExtraAlike : List (Document × Document) → List (Document × Document) → Prop
  | nil : ExtraAlike [] []
  | source {word : List Char} {key : Text} (a b : Document) {xs ys : List (Document × Document)} :
      word ∈ sourceWords → Spells word key.toList → ExtraAlike xs ys →
        ExtraAlike ((.text key, a) :: xs) ((.text key, b) :: ys)
  | same (entry : Document × Document) {xs ys : List (Document × Document)} : ExtraAlike xs ys →
      ExtraAlike (entry :: xs) (entry :: ys)
  | inside (key : Document) {inner others xs ys : List (Document × Document)} : ExtraAlike inner others →
      ExtraAlike xs ys → ExtraAlike ((key, .map inner) :: xs) ((key, .map others) :: ys)

/-- Events that differ at most in the local variables of frames, in the texts of fixtures among their further values and
in the name of the host. -/
inductive EventsAlike : Document → Document → Prop
  | map {first second third fourth : List (Document × Document)} :
      AlikeUnder "exception" (MapsAlike (AlikeUnder "values" (ListsAlike ExceptionsAlike))) first second →
        AlikeUnder "extra" (MapsAlike ExtraAlike) second third →
          beside "server_name" third = beside "server_name" fourth → EventsAlike (.map first) (.map fourth)

theorem scrubFrame_eq {frame second : Document} (h : FramesAlike frame second) :
    scrubFrame frame = scrubFrame second := by
  cases h with
  | @map xs ys hbeside =>
      have hframe : ∀ entries, scrubFrame (.map entries) =
          .ok (.map (change "abs_path" scrubIfText (change "filename" scrubIfText (beside "vars" entries)))) := by
        intro entries
        rw [beside_eq_without]
        rfl
      rw [hframe, hframe, hbeside]

theorem scrubException_eq {exception second : Document} (h : ExceptionsAlike exception second) :
    scrubException exception = scrubException second := by
  cases h with
  | map htrace =>
      have hframes := fun inner others (h : AlikeUnder "frames" (ListsAlike FramesAlike) inner others) =>
        changeMembers_eq h fun _ _ => scrubFrame_eq
      rw [scrubException_map, scrubException_map, changeMap_eq htrace hframes]

theorem scrubEntries_eq (h : ExtraAlike xs ys) : scrubEntries xs = scrubEntries ys := by
  induction h with
  | nil => rfl
  | source a b hword hspells _ ih =>
      have hkey := isSourceKey_text_iff.mpr ⟨_, hword, hspells⟩
      rw [scrubEntries, scrubEntries, if_pos hkey, if_pos hkey, ih]
  | same entry _ ih =>
      obtain ⟨key, value⟩ := entry
      rw [scrubEntries, scrubEntries, ih]
  | inside key _ _ hinner hrest => rw [scrubEntries, scrubEntries, scrubValue, scrubValue, hinner, hrest]

/-! ## Scrubbing in steps -/

/-- The sections of an event that are scrubbed before its further values. -/
def scrubSections (entries : List (Document × Document)) : Except Failure (List (Document × Document)) := do
  let entries ← changeMap "exception" (changeMembers "values" scrubException) entries
  let entries ← changeMap "logentry" (fun inner => .ok (change "message" scrubIfText inner)) entries
  changeMap "breadcrumbs" (changeMembers "values" scrubCrumb) entries

/-- The further values of an event and the name of the host. -/
def scrubRest (entries : List (Document × Document)) : Except Failure Document := do
  let entries ← changeMap "extra" (fun inner => .ok (scrubEntries inner)) entries
  pure (.map (without "server_name" entries))

theorem scrubEvent_map (entries : List (Document × Document)) :
    scrubEvent (.map entries) = scrubSections entries >>= scrubRest := by
  rw [scrubSections, bind_assoc]
  simp only [bind_assoc]
  rfl

/-- A difference that the scrubbed sections do not see is there when the further values are scrubbed. -/
theorem scrubEvent_eq {R : List (Document × Document) → List (Document × Document) → Prop}
    (hR : ∀ name ∈ ([("exception" : Text), "logentry", "breadcrumbs"]), Overlooks R name) (h : R xs ys)
    (hrest : ∀ xs ys, R xs ys → scrubRest xs = scrubRest ys) : scrubEvent (.map xs) = scrubEvent (.map ys) := by
  obtain ⟨hexception, hlogentry, hbreadcrumbs⟩ : Overlooks R "exception" ∧ Overlooks R "logentry" ∧
      Overlooks R "breadcrumbs" := by simpa using hR
  have hsections : Alike R (scrubSections xs) (scrubSections ys) :=
    (hexception.changeMap _ h).bind fun _ _ h => (hlogentry.changeMap _ h).bind fun _ _ h => hbreadcrumbs.changeMap _ h
  rw [scrubEvent_map, scrubEvent_map, hsections.bind_eq hrest]

theorem scrubEvent_eq_of_exception
    (h : AlikeUnder "exception" (MapsAlike (AlikeUnder "values" (ListsAlike ExceptionsAlike))) xs ys) :
    scrubEvent (.map xs) = scrubEvent (.map ys) := by
  have hexceptions := changeMap_eq h fun _ _ hvalues => changeMembers_eq hvalues fun _ _ => scrubException_eq
  rw [scrubEvent_map, scrubEvent_map, scrubSections, scrubSections, hexceptions]

theorem scrubEvent_eq_of_extra (h : AlikeUnder "extra" (MapsAlike ExtraAlike) xs ys) :
    scrubEvent (.map xs) = scrubEvent (.map ys) := by
  have hnames : ∀ name ∈ ([("exception" : Text), "logentry", "breadcrumbs"]), name ≠ "extra" := by decide
  refine scrubEvent_eq (fun name hname => overlooks_alikeUnder (hnames name hname)) h fun _ _ h => ?_
  rw [scrubRest, scrubRest, changeMap_eq h fun _ _ hinner => congrArg Except.ok (scrubEntries_eq hinner)]

theorem scrubEvent_eq_of_host (h : beside "server_name" xs = beside "server_name" ys) :
    scrubEvent (.map xs) = scrubEvent (.map ys) := by
  have hnames : ∀ name ∈ ([("exception" : Text), "logentry", "breadcrumbs"]), name ≠ "server_name" := by decide
  refine scrubEvent_eq (fun name hname => overlooks_beside (hnames name hname)) h fun _ _ h => ?_
  have hextra : ("extra" : Text) ≠ "server_name" := by decide
  refine ((overlooks_beside hextra).changeMap _ h).bind_eq fun _ _ hleft => ?_
  rw [← beside_eq_without, ← beside_eq_without, hleft]

/-! ## Frames -/

variable {P Q : Document → Prop}

/-- What stands under a key is as described. -/
def Under (name : Text) (P : Document → Prop) (d : Document) : Prop :=
  ∃ value, d.get? name = some value ∧ P value

/-- A member of the list under a key is as described. -/
def HasMember (name : Text) (P : Document → Prop) : Document → Prop :=
  Under name fun value => ∃ items, value = .list items ∧ ∃ item ∈ items, P item

/-- A frame of one of the exceptions of an event is as described. -/
def HasFrame (P : Document → Prop) : Document → Prop :=
  Under "exception" (HasMember "values" (Under "stacktrace" (HasMember "frames" P)))

theorem under_map_iff {value : Document} (h : valueOf? name entries = some value) :
    Under name P (.map entries) ↔ P value := by
  have hget : (Document.map entries).get? name = some value := h
  simp [Under, hget]

theorem not_under {d : Document} (h : ∀ inner, d ≠ .map inner) : ¬Under name P d := by
  rintro ⟨value, hvalue, -⟩
  cases d with
  | map inner => exact h inner rfl
  | _ => cases hvalue

/-- Of what can be gone through only a list is changed. -/
theorem changeMembers_cases {f : Document → Except Failure Document} (h : changeMembers name f entries = .ok changed) :
    (∃ items after, valueOf? name entries = some (.list items) ∧ items.mapM f = .ok after ∧
      changed = change name (fun _ => .list after) entries) ∨
    (∀ items, valueOf? name entries ≠ some (.list items)) ∧ changed = entries := by
  unfold changeMembers at h
  cases hvalue : valueOf? name entries with
  | none =>
      rw [hvalue] at h
      exact .inr ⟨nofun, (Except.ok.inj h).symm⟩
  | some value =>
      rw [hvalue] at h
      obtain ⟨gone, hgone, hrest⟩ := bind_eq_ok_iff.mp h
      obtain ⟨after, hafter, hchanged⟩ := bind_eq_ok_iff.mp hrest
      cases value with
      | list items =>
          obtain rfl := Except.ok.inj hgone
          exact .inl ⟨items, after, rfl, hafter, (Except.ok.inj hchanged).symm⟩
      | _ => exact .inr ⟨nofun, (Except.ok.inj hchanged).symm⟩

/-- The members of a list under a key when they have been changed. -/
theorem hasMember_changeMembers_iff {f : Document → Except Failure Document}
    (h : changeMembers name f entries = .ok changed) (hstep : ∀ item after, f item = .ok after → (Q after ↔ P item)) :
    HasMember name Q (.map changed) ↔ HasMember name P (.map entries) := by
  rcases changeMembers_cases h with ⟨items, after, hitems, hafter, rfl⟩ | ⟨hnone, rfl⟩
  · have hnow : valueOf? name (change name (fun _ => .list after) entries) = some (.list after) := by
      rw [valueOf?_change_const, hitems, Option.map_some]
    rw [HasMember, HasMember, under_map_iff hnow, under_map_iff hitems]
    simpa using exists_mem_iff_of_mapM hafter hstep
  · have hnot : ∀ P : Document → Prop, ¬HasMember name P (.map changed) := by
      rintro P ⟨_, hvalue, items, rfl, -⟩
      exact hnone items hvalue
    exact iff_of_false (hnot Q) (hnot P)

/-- What is inside a mapping under a key when this mapping has been changed.  Anything else is left as it is. -/
theorem under_changeMap_iff {f : List (Document × Document) → Except Failure (List (Document × Document))}
    (h : changeMap name f entries = .ok changed)
    (hstep : ∀ inner after, f inner = .ok after → (Q (.map after) ↔ P (.map inner)))
    (hother : ∀ d, (∀ inner, d ≠ .map inner) → (Q d ↔ P d)) :
    Under name Q (.map changed) ↔ Under name P (.map entries) := by
  rcases changeMap_cases name f entries with ⟨inner, hinner, hchange⟩ | ⟨hnone, hchange⟩
  · obtain ⟨after, hafter, rfl⟩ := map_eq_ok_iff.mp (hchange.symm.trans h)
    have hnow : valueOf? name (change name (fun _ => .map after) entries) = some (.map after) := by
      rw [valueOf?_change_const, hinner, Option.map_some]
    rw [under_map_iff hnow, under_map_iff hinner, hstep inner after hafter]
  · obtain rfl := Except.ok.inj (hchange.symm.trans h)
    refine exists_congr fun d => and_congr_right fun hd => hother d ?_
    rintro inner rfl
    exact hnone inner hd

/-- Other keys keep their values when the mapping under a key is changed. -/
theorem valueOf?_of_changeMap {f : List (Document × Document) → Except Failure (List (Document × Document))}
    (h : changeMap name f entries = .ok changed) (hne : other ≠ name) :
    valueOf? other changed = valueOf? other entries := by
  rcases changeMap_cases name f entries with ⟨inner, -, hchange⟩ | ⟨-, hchange⟩
  · obtain ⟨after, -, rfl⟩ := map_eq_ok_iff.mp (hchange.symm.trans h)
    exact valueOf?_change_of_ne hne _
  · rw [Except.ok.inj (hchange.symm.trans h)]

/-- The frames of a scrubbed exception. -/
theorem under_scrubException_iff {exception scrubbed : Document} (h : scrubException exception = .ok scrubbed)
    (hstep : ∀ frame after, scrubFrame frame = .ok after → (Q after ↔ P frame)) :
    Under "stacktrace" (HasMember "frames" Q) scrubbed ↔ Under "stacktrace" (HasMember "frames" P) exception := by
  cases exception with
  | map fields =>
      rw [scrubException_map] at h
      obtain ⟨changed, hchanged, rfl⟩ := map_eq_ok_iff.mp h
      exact under_changeMap_iff hchanged (fun _ _ hframes => hasMember_changeMembers_iff hframes hstep)
        fun _ hd => iff_of_false (not_under hd) (not_under hd)
  | _ => cases h

/-- The frames of an event that is sent. -/
theorem hasFrame_scrubEvent_iff {event sent : Document} (h : scrubEvent event = .ok sent)
    (hstep : ∀ frame after, scrubFrame frame = .ok after → (Q after ↔ P frame)) :
    HasFrame Q sent ↔ HasFrame P event := by
  cases event with
  | map entries =>
      rw [scrubEvent_map] at h
      obtain ⟨third, hsections, hrest⟩ := bind_eq_ok_iff.mp h
      obtain ⟨first, hfirst, hlater⟩ := bind_eq_ok_iff.mp hsections
      obtain ⟨second, hsecond, hthird⟩ := bind_eq_ok_iff.mp hlater
      obtain ⟨fourth, hfourth, hsent⟩ := bind_eq_ok_iff.mp hrest
      obtain rfl := Except.ok.inj hsent
      -- Only the first step changes exceptions; the others leave them as they find them.
      have hexception : valueOf? "exception" (without "server_name" fourth) = valueOf? "exception" first := by
        rw [valueOf?_without_of_ne (by decide), valueOf?_of_changeMap hfourth (by decide),
          valueOf?_of_changeMap hthird (by decide), valueOf?_of_changeMap hsecond (by decide)]
      have hframes : HasFrame Q (.map first) ↔ HasFrame P (.map entries) :=
        under_changeMap_iff hfirst
          (fun _ _ hvalues => hasMember_changeMembers_iff hvalues fun _ _ h => under_scrubException_iff h hstep)
          fun _ hd => iff_of_false (not_under hd) (not_under hd)
      rw [← hframes]
      exact exists_congr fun d => and_congr_left fun _ => by rw [get?, get?, ← valueOf?, hexception, valueOf?]
  | _ => cases h

theorem exists_of_hasFrame {event : Document} (h : HasFrame P event) : ∃ frame, P frame := by
  obtain ⟨_, -, _, -, _, -, exception, -, _, -, _, -, _, -, frame, -, hframe⟩ := h
  exact ⟨frame, hframe⟩

theorem get?_vars_of_scrubFrame {frame after : Document} (h : scrubFrame frame = .ok after) :
    after.get? "vars" = none := by
  cases frame with
  | map fields =>
      obtain rfl := Except.ok.inj h
      rw [get?, ← valueOf?, valueOf?_change_of_ne (by decide), valueOf?_change_of_ne (by decide),
        valueOf?_without_self]
  | _ => cases h

/-! ## Events -/

/-- What is made as events are can be scrubbed. -/
theorem exists_scrubEvent {event : Document} (h : IsEvent event) : ∃ sent, scrubEvent event = .ok sent := by
  cases h with
  | @map entries hexceptions hcrumbs =>
      obtain ⟨first, hfirst, -⟩ := exists_scrubExceptions hexceptions
      obtain ⟨second, hsecond, -⟩ := exists_scrubMessage first
      -- What is asked of the crumbs of the event is asked of them when the steps before have been taken.
      have hbefore : valueOf? "breadcrumbs" second = valueOf? "breadcrumbs" entries := by
        rw [valueOf?_of_changeMap hsecond (by decide), valueOf?_of_changeMap hfirst (by decide)]
      obtain ⟨third, hthird, -⟩ := exists_scrubCrumbs fun inner hinner => hcrumbs inner (hbefore.symm.trans hinner)
      obtain ⟨fourth, hfourth, -⟩ := exists_scrubExtra third
      have hsections : scrubSections entries = .ok third :=
        bind_eq_ok_iff.mpr ⟨first, hfirst, bind_eq_ok_iff.mpr ⟨second, hsecond, hthird⟩⟩
      refine ⟨.map (without "server_name" fourth), ?_⟩
      rw [scrubEvent_map]
      exact bind_eq_ok_iff.mpr ⟨third, hsections, bind_eq_ok_iff.mpr ⟨fourth, hfourth, rfl⟩⟩

/-- The frames of an event are sent scrubbed and without local variables. -/
structure FramesScrubbed (event sent : Document) : Prop where
  shown : ∀ d, HasFrame (fun frame => frame = d) sent ↔ HasFrame (fun frame => scrubFrame frame = .ok d) event
  bare : ¬HasFrame (fun frame => frame.get? "vars" ≠ none) sent

theorem framesScrubbed_of_scrubEvent {event sent : Document} (h : scrubEvent event = .ok sent) :
    FramesScrubbed event sent := by
  refine ⟨fun d => hasFrame_scrubEvent_iff h fun frame after hafter => ?_, fun hvars => ?_⟩
  · rw [hafter, Except.ok.injEq]
  · -- A frame with local variables would have been scrubbed from one of which nothing is true.
    have hnone : HasFrame (fun _ => False) event := by
      refine (hasFrame_scrubEvent_iff h fun frame after hafter => ?_).mp hvars
      exact iff_of_false (fun hne => hne (get?_vars_of_scrubFrame hafter)) id
    obtain ⟨_, hfalse⟩ := exists_of_hasFrame hnone
    exact hfalse

/-- Events that differ only in local variables, in texts of fixtures and in the name of the host are sent as the same
event, and this has no local variables. -/
theorem scrubEvent_alike {event alternative : Document} (h : EventsAlike event alternative) :
    scrubEvent event = scrubEvent alternative ∧ (IsEvent event → ∃ sent, scrubEvent event = .ok sent) ∧
      ∀ sent, scrubEvent event = .ok sent → FramesScrubbed event sent := by
  refine ⟨?_, exists_scrubEvent, fun sent => framesScrubbed_of_scrubEvent⟩
  cases h with
  | @map first second third fourth hexception hextra hhost =>
      calc
        scrubEvent (.map first) = scrubEvent (.map second) := scrubEvent_eq_of_exception hexception
        _ = scrubEvent (.map third) := scrubEvent_eq_of_extra hextra
        _ = scrubEvent (.map fourth) := scrubEvent_eq_of_host hhost

/-- An exception with one frame. -/
def raised (frame : List (Document × Document)) : Document :=
  .map [(.text "stacktrace", .map [(.text "frames", .list [.map frame])])]

/-- An event with this exception and further values, and what stands in front of them. -/
def reported (front frame further : List (Document × Document)) : Document :=
  .map (front ++ [(.text "exception", .map [(.text "values", .list [raised frame])]), (.text "extra", .map further)])

/-- The entries of a frame. -/
def placed : List (Document × Document) :=
  [(.text "lineno", .int 3)]

/-- The output of a tool as a further value. -/
def printed (value : Document) : List (Document × Document) :=
  [(.text "run", .map [(.text "STDOUT", value)])]

theorem eventsAlike_reported (host locals value other : Document) :
    EventsAlike
      (reported [(.text "server_name", host)] (placed ++ [(.text "vars", locals)]) (printed value))
      (reported [] placed (printed other)) := by
  have hname : Document.text "server_name" ≠ .text "exception" := by decide
  have hextra : Document.text "exception" ≠ .text "extra" := by decide
  have hhost : Document.text "server_name" ≠ .text "extra" := by decide
  have hframe : FramesAlike (.map (placed ++ [(.text "vars", locals)])) (.map placed) := .map rfl
  have hraised : ExceptionsAlike (raised (placed ++ [(.text "vars", locals)])) (raised placed) :=
    .map (.value [] (.map (.value [] (.list (.cons (.inr hframe) .nil)))))
  have hword : "stdout".toList ∈ sourceWords := by decide
  have hspells : Spells "stdout".toList ("STDOUT" : Text).toList := by decide
  have hprinted : ExtraAlike (printed value) (printed other) :=
    .inside _ (.source value other hword hspells .nil) .nil
  exact .map (.behind host hname (.value _ (.map (.value [] (.list (.cons (.inr hraised) .nil))))))
    (.behind host hhost (.behind _ hextra (.value [] (.map hprinted)))) rfl

/-- A local variable, the output of a tool and the name of the host are not sent. -/
theorem scrubEvent_alike_reported :
    ∃ sent,
      scrubEvent (reported [(.text "server_name", .text "alpha")] (placed ++ [(.text "vars", .text "module m;")])
        (printed (.text "module m;"))) = .ok sent ∧
      scrubEvent (reported [] placed (printed .null)) = .ok sent ∧
      HasFrame (fun frame => frame = .map placed) sent ∧ ¬HasFrame (fun frame => frame.get? "vars" ≠ none) sent := by
  have hevent : IsEvent (reported [(.text "server_name", .text "alpha")]
      (placed ++ [(.text "vars", .text "module m;")]) (printed (.text "module m;"))) := by
    refine .map ?_ nofun
    rintro inner ⟨⟩ value ⟨⟩
    refine ⟨_, rfl, fun exception hexception => ?_⟩
    obtain rfl := List.mem_singleton.mp hexception
    refine .map ?_
    rintro trace ⟨⟩ frames ⟨⟩
    refine ⟨_, rfl, fun frame hframe => ?_⟩
    obtain rfl := List.mem_singleton.mp hframe
    exact .map _
  obtain ⟨hsame, hsends, hframes⟩ := scrubEvent_alike
    (eventsAlike_reported (.text "alpha") (.text "module m;") (.text "module m;") .null)
  obtain ⟨sent, hsent⟩ := hsends hevent
  refine ⟨sent, hsent, hsame.symm.trans hsent, ((hframes sent hsent).shown _).mpr ?_, (hframes sent hsent).bare⟩
  exact ⟨_, rfl, _, rfl, _, rfl, _, List.mem_cons_self, _, rfl, _, rfl, _, rfl, _, List.mem_cons_self, rfl⟩

end Conformance.Telemetry
