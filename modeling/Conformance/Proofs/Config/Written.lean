import Conformance.Proofs.Config.Load
import Conformance.Proofs.Text.Utf8

/-!
# Configurations that were written down

A configuration as a document can be written to a configuration file.  Loading the file gives the configuration
again, whatever the environment holds: every setting is found where it was written, and is read as itself.

Main results:

- `setting?_of_at?`: a setting of a section is found there when the placeholders have been filled.
- `load_of_holds`: a file that holds a configuration is loaded as this configuration.
-/

namespace Conformance

variable {e : Environment} {entries : List (Document × Document)} {value : Document}

namespace Config

/-! ## Settings in their places -/

/-- The texts among the settings of a configuration. -/
def texts (c : Config) : List Text :=
  [c.fixtures.root, c.fixtures.generic, c.selection.backend, c.report.format, c.report.output, c.monitoring.dsn,
    c.monitoring.environment] ++ c.fixtures.chapters ++ c.fixtures.extensions ++ c.selection.skipTags ++
    c.command.arguments

/-- What something stands in under a key is a mapping. -/
theorem exists_map_of_at? {d : Document} {name : Text} {rest : List Text} (h : d.at? (name :: rest) = some value) :
    ∃ entries, d = .map entries := by
  cases d with
  | map entries => exact ⟨entries, rfl⟩
  | _ => cases h

theorem at?_sectionOf {group : Text} {rest : List Text} {name : Text}
    (h : (Document.map entries).at? (group :: name :: rest) = some value) :
    (Document.map (sectionOf group entries)).at? (name :: rest) = some value := by
  rw [Document.at?_cons, Option.bind_eq_some_iff] at h
  obtain ⟨d, hgroup, hrest⟩ := h
  obtain ⟨inner, rfl⟩ := exists_map_of_at? hrest
  rwa [sectionOf, hgroup]

/-- A section of which the placeholders have been filled is the section with its placeholders filled. -/
theorem sectionOf_resolveEntries (group : Text) (entries : List (Document × Document)) :
    sectionOf group (resolveEntries e entries).1 = (resolveEntries e (sectionOf group entries)).1 := by
  rw [sectionOf, sectionOf, get?_resolveEntries]
  cases (Document.map entries).get? group with
  | none => rfl
  | some d =>
      cases d with
      | map inner => rw [Option.map_some, resolve_map]
      | _ => rfl

theorem setting?_resolveEntries {name : Text} (h : (Document.map entries).at? [name] = some value) :
    setting? name (resolveEntries e entries).1 = some (resolve e value).1 := by
  rw [Document.at?_cons, Option.bind_eq_some_iff] at h
  obtain ⟨d, hname, hd⟩ := h
  cases hd
  rw [setting?, get?_resolveEntries, hname, Option.map_some]

/-- A setting of a section is found there when the placeholders have been filled. -/
theorem setting?_of_at? {group name : Text} (h : (Document.map entries).at? [group, name] = some value) :
    setting? name (sectionOf group (resolveEntries e entries).1) = some (resolve e value).1 := by
  rw [sectionOf_resolveEntries, setting?_resolveEntries (at?_sectionOf h)]

theorem setting?_of_at?_inside {outer group name : Text}
    (h : (Document.map entries).at? [outer, group, name] = some value) :
    setting? name (sectionOf group (sectionOf outer (resolveEntries e entries).1)) = some (resolve e value).1 := by
  rw [sectionOf_resolveEntries, setting?_of_at? (at?_sectionOf h)]

/-! ## Settings that are read as themselves -/

theorem setting_of_given {name : Text} {usual : Document} (h : setting? name entries = some value) :
    setting name entries usual = value := by
  unfold setting
  rw [← setting?, h]
  rfl

theorem readText_text (t : Text) : readText (.text t) = .ok t :=
  rfl

theorem readOptionalText_text (t : Text) : readOptionalText (.text t) = .ok t := by
  unfold readOptionalText Document.isTruthy
  by_cases h : t = ""
  · rw [h]
    rfl
  · rw [if_pos (bne_iff_ne.mpr h), readText_text]

theorem readItems_map_text (items : List Text) : readItems (items.map .text) = .ok items := by
  induction items with
  | nil => rfl
  | cons t rest ih =>
      rw [List.map_cons, readItems, readText_text, ih]
      rfl

theorem readTexts_texts (usual items : List Text) : readTexts usual (some (.texts items)) = .ok items :=
  readItems_map_text items

/-! ## Sections -/

section Sections

variable {c : Config} {group name : Text}

/-- A value that stands in a configuration and has no placeholders is found in its place. -/
theorem setting?_of_holds (h : (Document.map entries).Holds (.record c.toEntries))
    (hat : (Document.record c.toEntries).at? [group, name] = some value) (hleaf : ∀ inner, value ≠ .map inner)
    (hsame : (resolve e value).1 = value) :
    setting? name (sectionOf group (resolveEntries e entries).1) = some value := by
  rw [setting?_of_at? (h _ _ hat hleaf), hsame]

theorem text_of_holds {t : Text} (h : (Document.map entries).Holds (.record c.toEntries))
    (hplain : ∀ t ∈ c.texts, Plain t.toList)
    (hat : (Document.record c.toEntries).at? [group, name] = some (.text t)) (ht : t ∈ c.texts) :
    setting? name (sectionOf group (resolveEntries e entries).1) = some (.text t) :=
  setting?_of_holds h hat (fun _ => Document.noConfusion) (resolve_text (hplain t ht))

theorem texts_of_holds {items : List Text} (h : (Document.map entries).Holds (.record c.toEntries))
    (hplain : ∀ t ∈ c.texts, Plain t.toList)
    (hat : (Document.record c.toEntries).at? [group, name] = some (.texts items))
    (hitems : ∀ t ∈ items, t ∈ c.texts) :
    setting? name (sectionOf group (resolveEntries e entries).1) = some (.texts items) :=
  setting?_of_holds h hat (fun _ => Document.noConfusion) (resolve_texts fun t ht => hplain t (hitems t ht))

variable (h : (Document.map entries).Holds (.record c.toEntries)) (hplain : ∀ t ∈ c.texts, Plain t.toList)

include h

theorem readIterations_of_holds : readIterations (resolveEntries e entries).1 = .ok c.iterations := by
  have hiterations : setting? "iterations" (sectionOf "benchmark" (resolveEntries e entries).1) =
      some (.int c.iterations) :=
    setting?_of_holds h rfl (fun _ => Document.noConfusion) (resolve_int _)
  rw [readIterations, setting_of_given hiterations]
  rfl

include hplain

theorem readFixtures_of_holds : readFixtures e (resolveEntries e entries).1 = .ok c.fixtures := by
  have hroot : setting? "root" (sectionOf "fixtures" (resolveEntries e entries).1) = some (.text c.fixtures.root) :=
    text_of_holds h hplain rfl (by simp [texts])
  have hchapters : setting? "chapters" (sectionOf "fixtures" (resolveEntries e entries).1) =
      some (.texts c.fixtures.chapters) :=
    texts_of_holds h hplain rfl fun t ht => by simp [texts, ht]
  have hgeneric : setting? "generic_dir" (sectionOf "fixtures" (resolveEntries e entries).1) =
      some (.text c.fixtures.generic) :=
    text_of_holds h hplain rfl (by simp [texts])
  have hextensions : setting? "extensions" (sectionOf "fixtures" (resolveEntries e entries).1) =
      some (.texts c.fixtures.extensions) :=
    texts_of_holds h hplain rfl fun t ht => by simp [texts, ht]
  have hlimit : setting? "max_fixture_bytes" (sectionOf "fixtures" (resolveEntries e entries).1) =
      some (.int c.fixtures.limit) :=
    setting?_of_holds h rfl (fun _ => Document.noConfusion) (resolve_int _)
  simp only [readFixtures, settingOr, setting_of_given hroot, hchapters, setting_of_given hgeneric, hextensions,
    setting_of_given hlimit, readText_text, readTexts_texts, readOptionalText_text]
  rfl

theorem readSelection_of_holds : readSelection e (resolveEntries e entries).1 = .ok c.selection := by
  have hbackend : setting? "backend" (sectionOf "run" (resolveEntries e entries).1) =
      some (.text c.selection.backend) :=
    text_of_holds h hplain rfl (by simp [texts])
  have hskipTags : setting? "skip_tags" (sectionOf "run" (resolveEntries e entries).1) =
      some (.texts c.selection.skipTags) :=
    texts_of_holds h hplain rfl fun t ht => by simp [texts, ht]
  simp only [readSelection, settingOr, setting_of_given hbackend, hskipTags, readText_text, readTexts_texts]
  rfl

theorem readCommand_of_holds {x : Float} (htimeout : c.command.timeout = .float x) :
    readCommand (resolveEntries e entries).1 = .ok c.command := by
  have harguments : setting? "argv" (sectionOf "command" (sectionOf "backends" (resolveEntries e entries).1)) =
      some (.texts c.command.arguments) := by
    rw [setting?_of_at?_inside (h _ (.texts c.command.arguments) rfl fun _ => Document.noConfusion),
      resolve_texts fun t ht => hplain t (by simp [texts, ht])]
  have htimeout' : setting? "timeout" (sectionOf "command" (sectionOf "backends" (resolveEntries e entries).1)) =
      some (.float x) := by
    have hat : (Document.record c.toEntries).at? ["backends", "command", "timeout"] = some (.float x) := by
      change some (Document.ofNumber c.command.timeout) = _
      rw [htimeout]
      rfl
    rw [setting?_of_at?_inside (h _ _ hat fun _ => Document.noConfusion), resolve_float]
  have hcommand : c.command = ⟨c.command.arguments, .float x⟩ := by
    rw [← htimeout]
  simp only [readCommand, harguments, setting_of_given htimeout', readTexts_texts]
  rw [hcommand]
  rfl

theorem readReport_of_holds : readReport (resolveEntries e entries).1 = .ok c.report := by
  have hformat : setting? "format" (sectionOf "report" (resolveEntries e entries).1) = some (.text c.report.format) :=
    text_of_holds h hplain rfl (by simp [texts])
  have houtput : setting? "output" (sectionOf "report" (resolveEntries e entries).1) = some (.text c.report.output) :=
    text_of_holds h hplain rfl (by simp [texts])
  simp only [readReport, setting_of_given hformat, setting_of_given houtput, readText_text, readOptionalText_text]
  rfl

theorem readMonitoring_of_holds : readMonitoring e (resolveEntries e entries).1 = .ok c.monitoring := by
  have henabled : setting? "enabled" (sectionOf "sentry" (resolveEntries e entries).1) =
      some (.bool c.monitoring.enabled) :=
    setting?_of_holds h rfl (fun _ => Document.noConfusion) (resolve_bool _)
  have hdsn : setting? "dsn" (sectionOf "sentry" (resolveEntries e entries).1) = some (.text c.monitoring.dsn) :=
    text_of_holds h hplain rfl (by simp [texts])
  have henvironment : setting? "environment" (sectionOf "sentry" (resolveEntries e entries).1) =
      some (.text c.monitoring.environment) :=
    text_of_holds h hplain rfl (by simp [texts])
  simp only [readMonitoring, settingOr, setting_of_given henabled, setting_of_given hdsn,
    setting_of_given henvironment, readText_text]
  rfl

/-- The entries of a configuration stand for it, whatever the environment holds. -/
theorem ofEntries_of_holds {x : Float} {source : Option Path} (htimeout : c.command.timeout = .float x) :
    ofEntries e source (resolveEntries e entries).1 = .ok { c with source := source } := by
  simp only [ofEntries, readFixtures_of_holds h hplain, readSelection_of_holds h hplain,
    readCommand_of_holds h hplain htimeout, readIterations_of_holds h, readReport_of_holds h hplain,
    readMonitoring_of_holds h hplain]
  rfl

end Sections

/-- A file that holds a configuration is loaded as this configuration, whatever the environment holds. -/
theorem load_of_holds {tree : FileTree} {e : Environment} {path : Option Path} {file : Path} {text : Text}
    {written : Document} {c : Config} {x : Float} (hfile : sourceOf? tree path = .ok (some file))
    (htext : readFile tree file = .ok text) (hyaml : Yaml.load text = .ok written)
    (hwritten : written.Holds (.record c.toEntries)) (htimeout : c.command.timeout = .float x)
    (hplain : ∀ t ∈ c.texts, Plain t.toList) :
    (load tree e path).1 = .ok { c with source := some file } := by
  obtain ⟨entries, rfl⟩ : ∃ entries, written = .map entries := by
    have hroot : written.at? ["fixtures", "root"] = some (.text c.fixtures.root) :=
      hwritten _ _ rfl fun _ => Document.noConfusion
    exact exists_map_of_at? hroot
  have hsource : readSource tree path = .ok (some file, entries) := by
    rw [readSource_of_file hfile, readEntries_of_map htext hyaml]
    rfl
  rw [load_of_readSource hsource, ofEntries_of_holds hwritten hplain htimeout]
  rfl

/-! ## Files of characters -/

/-- A file of characters is read as these, if nothing is wrong with its bytes and it has no line breaks of other
forms. -/
theorem readFile_of_chars {tree : FileTree} {file : Path} {chars : List Char} {reported : Nat}
    (hfind : tree.find file = .ok (.file (String.ofList chars).toUTF8 reported))
    (hfault : Text.firstFault? 0 none (chars.flatMap String.utf8EncodeChar) = none)
    (hbreaks : Text.unifyBreaks (Text.ofChars chars).toList = (Text.ofChars chars).toList) :
    readFile tree file = .ok (.ofChars chars) := by
  have hbytes : (String.ofList chars).toUTF8 = chars.utf8Encode := String.toByteArray_ofList
  have hlist : chars.utf8Encode.toList = chars.flatMap String.utf8EncodeChar := by
    rw [Text.toList_eq_data_toList, Text.toList_utf8Encode]
  simp only [readFile, hfind, FileTree.Entry.content?, Option.map_some, Text.decodeExactly, hbytes, hlist, hfault,
    Text.decode_utf8Encode, hbreaks, Text.ofList_toList]

theorem Yaml.load_of_graph {text : Text} {graph : Yaml.Graph} (h : Yaml.Graph.ofText text = .ok (some graph)) :
    Yaml.load text = graph.document := by
  rw [Yaml.load, h]
  rfl

deriving instance DecidableEq for Yaml.Graph

/-! ## A configuration with hardly anything in it -/

/-- A configuration with empty texts, empty lists and nothing switched on. -/
def bare : Config where
  fixtures := ⟨"$ROOT", [], "", [".sv"], 1⟩
  selection := ⟨"", []⟩
  command := ⟨[], .float (Decimal.infinity false)⟩
  iterations := 0
  report := ⟨"", ""⟩
  monitoring := ⟨false, "", ""⟩
  source := none

/-- The same as the lines of a file, each without its line feed. -/
def bareLines : List String :=
  ["fixtures:", " root: $ROOT", " chapters: []", " generic_dir: ''", " extensions: [.sv]", " max_fixture_bytes: 1",
    "run:", " backend: ''", " skip_tags: []",
    "backends:", " command:", "  argv: []", "  timeout: .inf",
    "benchmark:", " iterations: 0",
    "report:", " format: ''", " output: ''",
    "sentry:", " enabled: false", " dsn: ''", " environment: ''",
    "source: null"]

/-- The characters of the file. -/
def bareChars : List Char :=
  bareLines.flatMap fun line => line.toList ++ ['\n']

/-- A node of the file with one of the usual tags. -/
def bareNode (kind : String) (content : Yaml.Content) : Yaml.Node :=
  ⟨Yaml.commonTag kind, content⟩

/-- A node that is a text. -/
def bareText (t : Text) : Yaml.Node :=
  bareNode "str" (.scalar t)

/-- The nodes of the file, in the order in which they are met. -/
def bareGraph : Yaml.Graph where
  nodes := #[bareNode "map" (.mapping [(1, 2), (14, 15), (20, 21), (28, 29), (32, 33), (38, 39), (46, 47)]),
    bareText "fixtures", bareNode "map" (.mapping [(3, 4), (5, 6), (7, 8), (9, 10), (12, 13)]),
    bareText "root", bareText "$ROOT", bareText "chapters", bareNode "seq" (.sequence []),
    bareText "generic_dir", bareText "", bareText "extensions", bareNode "seq" (.sequence [11]), bareText ".sv",
    bareText "max_fixture_bytes", bareNode "int" (.scalar "1"),
    bareText "run", bareNode "map" (.mapping [(16, 17), (18, 19)]),
    bareText "backend", bareText "", bareText "skip_tags", bareNode "seq" (.sequence []),
    bareText "backends", bareNode "map" (.mapping [(22, 23)]),
    bareText "command", bareNode "map" (.mapping [(24, 25), (26, 27)]),
    bareText "argv", bareNode "seq" (.sequence []), bareText "timeout", bareNode "float" (.scalar ".inf"),
    bareText "benchmark", bareNode "map" (.mapping [(30, 31)]),
    bareText "iterations", bareNode "int" (.scalar "0"),
    bareText "report", bareNode "map" (.mapping [(34, 35), (36, 37)]),
    bareText "format", bareText "", bareText "output", bareText "",
    bareText "sentry", bareNode "map" (.mapping [(40, 41), (42, 43), (44, 45)]),
    bareText "enabled", bareNode "bool" (.scalar "false"), bareText "dsn", bareText "",
    bareText "environment", bareText "", bareText "source", bareNode "null" (.scalar "null")]
  root := 0

/-- A tree with the file. -/
def bareTree : FileTree where
  top := .directory [("c.yml", .plain (String.ofList bareChars).toUTF8)]
  current := []

/-- Variables that stand in for settings that are not there, and one that a text of the file names. -/
def busyEnvironment : Environment :=
  [("SVCONFORM_FIXTURES", "elsewhere"), ("SVCONFORM_BACKEND", "command"), ("SVCONFORM_SENTRY_ENABLED", "1"),
    ("SVCONFORM_SENTRY_DSN", "https://key@host/1"), ("ROOT", "/")]

theorem graph_bare : Yaml.Graph.ofText (.ofChars bareChars) = .ok (some bareGraph) := by decide +kernel

theorem load_of_holds_bare :
    (load bareTree busyEnvironment (some ⟨.current, ["c.yml"]⟩)).1 =
      .ok { bare with source := some ⟨.current, ["c.yml"]⟩ } := by
  have hyaml : Yaml.load (.ofChars bareChars) = .ok (.record bare.toEntries) := by
    rw [Yaml.load_of_graph graph_bare]
    decide +kernel
  have hfault : Text.firstFault? 0 none (bareChars.flatMap String.utf8EncodeChar) = none := by decide +kernel
  have hbreaks : Text.unifyBreaks (Text.ofChars bareChars).toList = (Text.ofChars bareChars).toList := by
    decide +kernel
  have htext : readFile bareTree ⟨.current, ["c.yml"]⟩ = .ok (.ofChars bareChars) :=
    readFile_of_chars rfl hfault hbreaks
  exact load_of_holds rfl htext hyaml (.refl _) rfl fun t ht => plain_of_not_mem (by revert t; decide)

end Config

end Conformance
