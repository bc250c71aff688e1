import Conformance.Document.Basic
import Conformance.Document.Yaml.Node
import Conformance.Document.Yaml.Schema

/-!
# Values of YAML nodes

Each node of a graph stands for one value.  Scalars are read when they are met; the parts of collections
are read level by level, so that of two faults the one nearer to the root wins.  Before the entries of a
mapping are read, the entries that it brings in from other mappings are put before its own.
-/

namespace Conformance.Yaml

/-- What a node stands for.  The values inside it are named by the places of their nodes. -/
inductive Shape
  | whole (value : Document)
  | list (items : List Nat)
  /-- A list of pairs. -/
  | pairs (items : List (Nat × Nat))
  | map (entries : List (Document × Nat))
  | set (members : List Document)
  deriving Repr, Inhabited

/-- The nodes of a text, what is known of their values, and the collections whose parts are still to be read,
the last one first. -/
structure Building where
  nodes : Array Node
  shapes : Array (Option Shape)
  waiting : List Nat
  deriving Repr

/-- A step of building. -/
abbrev Build := StateT Building (Except Fault)

namespace Build

/-! ## Nodes -/

/-- The node at a place. -/
def nodeAt (place : Nat) : Build Node := do
  pure ((← get).nodes.getD place .nothing)

/-- Change the node at a place. -/
def putNode (place : Nat) (node : Node) : Build Unit :=
  modify fun s => { s with nodes := s.nodes.setIfInBounds place node }

/-- The entries of a mapping; nothing else has any. -/
def entriesAt (place : Nat) : Build (List (Nat × Nat)) := do
  match (← nodeAt place).content with
  | .mapping entries => pure entries
  | _ => pure []

/-- Change the entries of a mapping. -/
def putEntries (place : Nat) (entries : List (Nat × Nat)) : Build Unit := do
  putNode place { ← nodeAt place with content := .mapping entries }

/-- The text of a scalar.  A mapping counts as the scalar under its key `=`. -/
def scalarText : Nat → Nat → Build Text
  | 0, _ => throw .tooDeep
  | fuel + 1, place => do
    match (← nodeAt place).content with
    | .scalar text => pure text
    | .sequence _ => throw .malformed
    | .mapping entries =>
      let named ← entries.filterM fun (key, _) => do
        pure ((← nodeAt key).tag == commonTag "value")
      match named with
      | (_, value) :: _ => scalarText fuel value
      | [] => throw .malformed

/-- More steps than there are nodes. -/
def nodeFuel : Build Nat := do
  pure ((← get).nodes.size + 1)

/-! ## Entries from other mappings -/

/-- Take the first merge key out of a mapping and give the place of what is merged. -/
def takeMerge (place : Nat) : Build (Option Nat) := do
  let entries ← entriesAt place
  let merging ← entries.filterM fun (key, _) => do
    pure ((← nodeAt key).tag == commonTag "merge")
  match merging with
  | (key, value) :: _ =>
    putEntries place (entries.eraseP (· == (key, value)))
    pure (some value)
  | [] => pure none

/-- Let the keys `=` of a mapping be texts. -/
def plainKeys (place : Nat) : Build Unit := do
  (← entriesAt place).forM fun (key, _) => do
    let node ← nodeAt key
    if node.tag = commonTag "value" then putNode key { node with tag := commonTag "str" }

mutual

/-- Put the entries that a mapping brings in before its own. -/
def flatten : Nat → Nat → Build Unit
  | 0, _ => throw .tooDeep
  | fuel + 1, place => do
    let brought ← mergeAll fuel place []
    plainKeys place
    putEntries place (brought ++ (← entriesAt place))
termination_by structural fuel => fuel

/-- Take out all merge keys of a mapping and give the entries that they bring in.  Of several mappings under
one key the entries of the first one come last and so prevail. -/
def mergeAll : Nat → Nat → List (Nat × Nat) → Build (List (Nat × Nat))
  | 0, _, _ => throw .tooDeep
  | fuel + 1, place, brought => do
    match ← takeMerge place with
    | none => pure brought
    | some source =>
      let entriesOf (source : Nat) : Build (List (Nat × Nat)) := do
        match (← nodeAt source).content with
        | .mapping _ => do flatten fuel source; entriesAt source
        | _ => throw .malformed
      let more ← match (← nodeAt source).content with
        | .sequence sources => do pure (← sources.mapM entriesOf).reverse.flatten
        | _ => entriesOf source
      mergeAll fuel place (brought ++ more)
termination_by structural fuel => fuel

end

/-- More steps than merging can take: each second one takes a key out of a mapping. -/
def mergeFuel : Build Nat := do
  let entries := (← get).nodes.foldl (fun n node =>
    match node.content with
    | .mapping entries => n + entries.length
    | _ => n) 0
  pure (2 * entries + 2)

/-! ## Values -/

/-- Whether a tag is one of a collection. -/
def isCollectionTag (tag : String) : Bool :=
  ["seq", "map", "set", "omap", "pairs"].any fun name => tag == commonTag name

/-- The value of a scalar. -/
def scalar (place : Nat) : Build Document := do
  let node ← nodeAt place
  if !isScalarTag node.tag then throw .malformed
  let text ← scalarText (← nodeFuel) place
  match node.content with
  | .mapping _ =>
    if node.tag = commonTag "timestamp" then throw .timestampMapping
    scalarValue node.tag text
  | _ => scalarValue node.tag text

/-- The value of a node, if it is a scalar.  A collection is only noted when it is first met. -/
def value? (place : Nat) : Build (Option Document) := do
  match (← get).shapes.getD place none with
  | some (.whole value) => pure (some value)
  | some _ => pure none
  | none =>
    let note (shape : Shape) : Build Unit :=
      modify fun s => { s with shapes := s.shapes.setIfInBounds place (some shape) }
    if isCollectionTag (← nodeAt place).tag then
      note (.list [])
      modify fun s => { s with waiting := place :: s.waiting }
      pure none
    else
      let value ← scalar place
      note (.whole value)
      pure (some value)

/-- A key: its value, and the place it is known by. -/
structure Key where
  value : Document
  place : Nat

/-- Whether two keys are the same.  A key that was met before is the same even if it is no number. -/
def Key.same (a b : Key) : Bool :=
  a.place == b.place || a.value.sameKey b.value

/-- The place that a key is known by.  All that are written as the name of no number are known by one. -/
def keyPlace (place : Nat) : Build Nat := do
  let node ← nodeAt place
  if node.tag = commonTag "float" && isNoNumber (← scalarText (← nodeFuel) place) then nodeFuel
  else pure place

/-- Read the entries of a mapping.  A later value replaces an earlier one at its place; a key has to be a
scalar. -/
def readEntries : List (Nat × Nat) → List (Key × Nat) → Build (List (Key × Nat))
  | [], done => pure done
  | (key, value) :: rest, done => do
    match ← value? key with
    | none => throw .malformed
    | some keyValue =>
      let _ ← value? value
      readEntries rest (Document.assign Key.same ⟨keyValue, ← keyPlace key⟩ value done)

/-- Read a mapping with one entry as a pair. -/
def readPair (place : Nat) : Build (Nat × Nat) := do
  match ← entriesAt place with
  | [(key, value)] =>
    let _ ← value? key
    let _ ← value? value
    pure (key, value)
  | _ => throw .malformed

/-- Read the parts of a collection. -/
def readParts (place : Nat) : Build Unit := do
  let node ← nodeAt place
  let shape : Shape ← match node.content with
    | .sequence items =>
      if node.tag = commonTag "seq" then do
        items.forM fun item => do let _ ← value? item
        pure (.list items)
      else if node.tag = commonTag "omap" || node.tag = commonTag "pairs" then
        .pairs <$> items.mapM readPair
      else throw .malformed
    | .mapping _ =>
      if node.tag = commonTag "map" || node.tag = commonTag "set" then do
        flatten (← mergeFuel) place
        let entries ← readEntries (← entriesAt place) []
        if node.tag = commonTag "map" then
          pure (.map (entries.map fun (key, value) => (key.value, value)))
        else pure (.set (entries.map (·.1.value)))
      else throw .malformed
    | .scalar _ => throw .malformed
  modify fun s => { s with shapes := s.shapes.setIfInBounds place (some shape) }

/-- Read the parts of all collections, level by level. -/
def readAll : Nat → Build Unit
  | 0 => pure ()
  | fuel + 1 => do
    match (← get).waiting.reverse with
    | [] => pure ()
    | level =>
      modify fun s => { s with waiting := [] }
      level.forM readParts
      readAll fuel

end Build

/-- What the nodes of a graph stand for. -/
def Graph.shapes (g : Graph) : Except Fault (Array (Option Shape)) :=
  let start : Building := ⟨g.nodes, Array.replicate g.nodes.size none, []⟩
  let build : Build Unit := do
    let _ ← Build.value? g.root
    Build.readAll (← Build.nodeFuel)
  (build.run start).map (·.2.shapes)

/-! ## Documents of a YAML text

The values of a graph are written out to one document.  Mappings are written out along their values, and a
mapping that is among its own values has no end.  Every item of a list is written out on its own: a
collection inside it that stands inside itself is not written out again there. -/

/-- A collection, or a pair by its list and its number in it. -/
abbrev Around := List (Nat × Option Nat)

/-- A step of writing out.  What has no collection inside itself is kept, for it is the same everywhere. -/
abbrev Unfold := StateT (Array (Option Document)) (Except Fault)

namespace Unfold

/-- Keep a value for its place if it is whole. -/
def keep (place : Nat) (value : Document) (whole : Bool) : Unfold (Document × Bool) := do
  if whole then modify fun kept => kept.setIfInBounds place (some value)
  pure (value, whole)

/-- Write out the value at a place inside of the given collections, and say whether it is whole. -/
def value (shapes : Array (Option Shape)) : Nat → Around → Nat → Unfold (Document × Bool)
  | 0, _, _ => throw .tooDeep
  | fuel + 1, around, place => do
    let within := (place, none) :: around
    let again := around.contains (place, none)
    match (← get).getD place none, shapes.getD place none with
    | some kept, _ => pure (kept, true)
    | none, some (.list items) =>
      if again then pure (.enclosing .list, false)
      else
        let parts ← items.mapM (value shapes fuel within)
        keep place (.list (parts.map (·.1))) (parts.all (·.2))
    | none, some (.pairs items) =>
      if again then pure (.enclosing .list, false)
      else
        let parts ← items.zipIdx.mapM fun ((first, second), n) => do
          if around.contains (place, some n) then pure (.enclosing .tuple, false)
          else
            let (a, wholeA) ← value shapes fuel ((place, some n) :: within) first
            let (b, wholeB) ← value shapes fuel ((place, some n) :: within) second
            pure (.tuple [a, b], wholeA && wholeB)
        keep place (.list (parts.map (·.1))) (parts.all (·.2))
    | none, some (.map entries) =>
      if again then pure (.enclosing .map, false)
      else
        let parts ← entries.mapM fun (key, inner) => do
          let (written, whole) ← value shapes fuel within inner
          pure ((key, written), whole)
        keep place (.map (parts.map (·.1))) (parts.all (·.2))
    | none, some (.set members) => pure (.set members, true)
    | none, some (.whole scalar) => pure (scalar, true)
    | none, none => pure (.null, true)

/-- Write out the document at a place, inside of the given mappings. -/
def document (shapes : Array (Option Shape)) (steps : Nat) : Nat → List Nat → Nat → Unfold Document
  | 0, _, _ => throw .endless
  | fuel + 1, around, place => do
    match shapes.getD place none with
    | some (.map entries) =>
      if around.contains place then throw .endless
      else
        .map <$> entries.mapM fun (key, inner) => do
          pure (key, ← document shapes steps fuel (place :: around) inner)
    | some (.list items) =>
      .list <$> items.mapM fun item => do
        pure (← value shapes steps [] item).1
    | some (.pairs items) =>
      .list <$> items.zipIdx.mapM fun ((first, second), n) => do
        let (a, _) ← value shapes steps [(place, some n)] first
        let (b, _) ← value shapes steps [(place, some n)] second
        pure (.tuple [a, b])
    | _ => do pure (← value shapes steps [] place).1

end Unfold

/-- How many mappings may stand inside each other; more count as no end. -/
def mappingDepth : Nat := 985

/-- The document of a graph. -/
def Graph.document (g : Graph) : Except Fault Document := do
  let shapes ← g.shapes
  let steps := shapes.size + 1
  let written := Unfold.document shapes steps (min steps mappingDepth) [] g.root
  written.run' (Array.replicate shapes.size none)

/-- The document that a YAML text holds. -/
def load (text : Text) : Except Fault Document := do
  match ← Graph.ofText text with
  | some graph => graph.document
  | none => pure .null

end Conformance.Yaml
