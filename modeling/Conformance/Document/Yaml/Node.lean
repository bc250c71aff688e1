import Conformance.Document.Yaml.Tag
import Conformance.Document.Yaml.Token

/-!
# Nodes of a YAML text

The tokens of a text are put together to a graph of nodes: scalars, sequences and mappings, each with its
tag.  Nodes are named by their places, so that an alias is just another mention of the node that its anchor
marks, also inside that node itself.
-/

namespace Conformance.Yaml

/-- What a node holds.  The nodes inside it are named by their places. -/
inductive Content
  | scalar (text : Text)
  | sequence (items : List Nat)
  | mapping (entries : List (Nat × Nat))
  deriving Repr, Inhabited, DecidableEq

/-- A node: what it holds, and the tag that says what it stands for. -/
structure Node where
  tag : String
  content : Content
  deriving Repr, Inhabited, DecidableEq

/-- The node of nothing at all. -/
def Node.nothing : Node :=
  ⟨commonTag "null", .scalar ""⟩

/-- Nodes by their places, and the place of the one that the text is. -/
structure Graph where
  nodes : Array Node
  root : Nat
  deriving Repr

/-! ## Steps of composition -/

/-- What is left of the tokens, the nodes so far, and what anchors and tag handles stand for. -/
structure Composition where
  tokens : List Token
  nodes : Array Node
  anchors : List (String × Nat)
  handles : List (String × String)
  deriving Repr

/-- A step of composition. -/
abbrev Compose := StateT Composition (Except Fault)

namespace Compose

/-- The next token.  Nothing can be asked of a place from which the text cannot be cut. -/
def peek : Compose Token := do
  match (← get).tokens.headD .streamEnd with
  | .broken fault => throw fault
  | token => pure token

/-- Leave the next token behind. -/
def skip : Compose Unit :=
  modify fun s => { s with tokens := s.tokens.drop 1 }

/-- Whether the next token is one of the given ones. -/
def isNext (tokens : List Token) : Compose Bool := do
  pure (tokens.contains (← peek))

/-- Give a node the next place. -/
def add (node : Node) : Compose Nat :=
  modifyGet fun s => (s.nodes.size, { s with nodes := s.nodes.push node })

/-- Put a node at a place that it has been given. -/
def fill (place : Nat) (node : Node) : Compose Unit :=
  modify fun s => { s with nodes := s.nodes.setIfInBounds place node }

/-- Let an anchor mark a place. -/
def mark (anchor : Option String) (place : Nat) : Compose Unit :=
  match anchor with
  | some name => modify fun s => { s with anchors := (name, place) :: s.anchors }
  | none => pure ()

/-- The place that an anchor marks, if it marks one. -/
def marked? (name : String) : Compose (Option Nat) := do
  pure ((← get).anchors.lookup name)

/-- Add the node of nothing at all. -/
def addNothing : Compose Nat :=
  add .nothing

/-! ## Anchors and tags -/

/-- An anchor and a tag, in either order; each may be absent. -/
def properties : Compose (Option String × Option (Option String × String)) := do
  match ← peek with
  | .anchor name =>
    skip
    match ← peek with
    | .tag handle rest => do skip; pure (some name, some (handle, rest))
    | _ => pure (some name, none)
  | .tag handle rest =>
    skip
    match ← peek with
    | .anchor name => do skip; pure (some name, some (handle, rest))
    | _ => pure (none, some (handle, rest))
  | _ => pure (none, none)

/-- The full name of a tag; its handle has to be known. -/
def fullTag : Option (Option String × String) → Compose (Option String)
  | none => pure none
  | some (none, rest) => pure (some rest)
  | some (some handle, rest) => do
    match (← get).handles.lookup handle with
    | some start => pure (some (start ++ rest))
    | none => throw .malformed

/-- Refuse an anchor that marks a place already. -/
def requireFresh (anchor : Option String) : Compose Unit :=
  match anchor with
  | some name => do
    match ← marked? name with
    | some _ => throw .malformed
    | none => pure ()
  | none => pure ()

/-- The tag of a collection, if none is given or only an exclamation mark. -/
def collectionTag (tag : Option String) (name : String) : String :=
  match tag with
  | none | some "!" => commonTag name
  | some tag => tag

/-- The tag of a scalar.  A plain scalar, and any scalar behind an exclamation mark, is read for what it
looks like; another scalar without a tag is a text. -/
def scalarTag (tag : Option String) (plain : Bool) (text : Text) : String :=
  match tag with
  | some "!" => plainTag text
  | some tag => tag
  | none => if plain then plainTag text else commonTag "str"

/-- Add a scalar. -/
def scalar (anchor tag : Option String) (text : Text) (plain : Bool) : Compose Nat := do
  let place ← add ⟨scalarTag tag plain text, .scalar text⟩
  mark anchor place
  pure place

/-- Add a collection whose parts are still to be read.  It has its place before its parts have theirs, so
that they can stand for it.  The depth says how many collections may still stand in each other. -/
def collection (anchor : Option String) (tag : String) (depth : Nat) (parts : Compose Content) :
    Compose Nat := do
  if depth = 0 then throw .tooDeep
  let place ← add ⟨tag, .sequence []⟩
  mark anchor place
  let content ← parts
  fill place ⟨tag, content⟩
  pure place

/-! ## Nodes -/

mutual

/-- Read a node.  Block collections may stand only where `block` says so, and items without depth of their
own only where `loose` says so. -/
def node (block loose : Bool) : Nat → Nat → Compose Nat
  | 0, _ => throw .malformed
  | fuel + 1, depth => do
    match ← peek with
    | .alias name =>
      skip
      match ← marked? name with
      | some place => pure place
      | none => throw .malformed
    | _ =>
      let (anchor, given) ← properties
      let tag ← fullTag given
      let token ← peek
      requireFresh anchor
      let sequence (parts : Compose (List Nat)) : Compose Nat :=
        collection anchor (collectionTag tag "seq") depth (.sequence <$> parts)
      let mapping (parts : Compose (List (Nat × Nat))) : Compose Nat :=
        collection anchor (collectionTag tag "map") depth (.mapping <$> parts)
      let nothing : Compose Nat :=
        if anchor.isNone && tag.isNone then throw .malformed else scalar anchor tag "" true
      match token with
      | .scalar text plain => do skip; scalar anchor tag text plain
      | .flowSequence => sequence (do skip; flowItems true fuel (depth - 1) [])
      | .flowMapping => mapping (do skip; flowEntries true fuel (depth - 1) [])
      | .blockSequence =>
        if block then sequence (do skip; items fuel (depth - 1) []) else nothing
      | .blockMapping =>
        if block then mapping (do skip; entries fuel (depth - 1) []) else nothing
      | .entry => if loose then sequence (looseItems fuel (depth - 1) []) else nothing
      | _ => nothing
termination_by structural fuel => fuel

/-- Read the items of a block sequence up to its end. -/
def items : Nat → Nat → List Nat → Compose (List Nat)
  | 0, _, _ => throw .malformed
  | fuel + 1, depth, done => do
    match ← peek with
    | .entry =>
      skip
      let item ←
        if ← isNext [.entry, .blockEnd] then addNothing else node true false fuel depth
      items fuel depth (item :: done)
    | .blockEnd => do skip; pure done.reverse
    | _ => throw .malformed
termination_by structural fuel => fuel

/-- Read items that stand at the depth of the key before them. -/
def looseItems : Nat → Nat → List Nat → Compose (List Nat)
  | 0, _, _ => throw .malformed
  | fuel + 1, depth, done => do
    match ← peek with
    | .entry =>
      skip
      let item ←
        if ← isNext [.entry, .key, .value, .blockEnd] then addNothing
        else node true false fuel depth
      looseItems fuel depth (item :: done)
    | _ => pure done.reverse
termination_by structural fuel => fuel

/-- Read the entries of a block mapping up to its end. -/
def entries : Nat → Nat → List (Nat × Nat) → Compose (List (Nat × Nat))
  | 0, _, _ => throw .malformed
  | fuel + 1, depth, done => do
    match ← peek with
    | .key =>
      skip
      let key ←
        if ← isNext [.key, .value, .blockEnd] then addNothing else node true true fuel depth
      let value ← blockValue fuel depth
      entries fuel depth ((key, value) :: done)
    | .blockEnd => do skip; pure done.reverse
    | _ => throw .malformed
termination_by structural fuel => fuel

/-- Read the value of an entry of a block mapping, which may be absent. -/
def blockValue : Nat → Nat → Compose Nat
  | 0, _ => throw .malformed
  | fuel + 1, depth => do
    match ← peek with
    | .value =>
      skip
      if ← isNext [.key, .value, .blockEnd] then addNothing else node true true fuel depth
    | _ => addNothing
termination_by structural fuel => fuel

/-- Read the value of an entry of a flow collection, which may be absent. -/
def flowValue (closing : Token) : Nat → Nat → Compose Nat
  | 0, _ => throw .malformed
  | fuel + 1, depth => do
    match ← peek with
    | .value =>
      skip
      if ← isNext [.flowEntry, closing] then addNothing else node false false fuel depth
    | _ => addNothing
termination_by structural fuel => fuel

/-- Read the items of a flow sequence up to its end.  A key among them begins a mapping of one entry. -/
def flowItems (first : Bool) : Nat → Nat → List Nat → Compose (List Nat)
  | 0, _, _ => throw .malformed
  | fuel + 1, depth, done => do
    if ← isNext [.flowSequenceEnd] then do skip; pure done.reverse
    else if !first && !(← isNext [.flowEntry]) then throw .malformed
    else
      if !first then skip
      match ← peek with
      | .key =>
        let item ← collection none (commonTag "map") depth (do
          skip
          let key ←
            if ← isNext [.value, .flowEntry, .flowSequenceEnd] then addNothing
            else node false false fuel (depth - 1)
          let value ← flowValue .flowSequenceEnd fuel (depth - 1)
          pure (.mapping [(key, value)]))
        flowItems false fuel depth (item :: done)
      | .flowSequenceEnd => do skip; pure done.reverse
      | _ =>
        let item ← node false false fuel depth
        flowItems false fuel depth (item :: done)
termination_by structural fuel => fuel

/-- Read the entries of a flow mapping up to its end. -/
def flowEntries (first : Bool) : Nat → Nat → List (Nat × Nat) → Compose (List (Nat × Nat))
  | 0, _, _ => throw .malformed
  | fuel + 1, depth, done => do
    if ← isNext [.flowMappingEnd] then do skip; pure done.reverse
    else if !first && !(← isNext [.flowEntry]) then throw .malformed
    else
      if !first then skip
      match ← peek with
      | .key =>
        skip
        let key ←
          if ← isNext [.value, .flowEntry, .flowMappingEnd] then addNothing
          else node false false fuel depth
        let value ← flowValue .flowMappingEnd fuel depth
        flowEntries false fuel depth ((key, value) :: done)
      | .flowMappingEnd => do skip; pure done.reverse
      | _ =>
        let key ← node false false fuel depth
        let value ← addNothing
        flowEntries false fuel depth ((key, value) :: done)
termination_by structural fuel => fuel

end

/-! ## Documents -/

/-- The tag handles that are always known. -/
def commonHandles : List (String × String) :=
  [("!", "!"), ("!!", commonTag "")]

/-- Read the directives before a document.  A version may be given once and has to be one; so may each
handle. -/
def directives : Nat → Bool → Compose Unit
  | 0, _ => throw .malformed
  | fuel + 1, versioned => do
    match ← peek with
    | .version major =>
      if versioned || major != 1 then throw .malformed
      skip
      directives fuel true
    | .tagHandle handle start =>
      let handles := (← get).handles
      if (handles.lookup handle).isSome then throw .malformed
      modify fun s => { s with handles := handles ++ [(handle, start)] }
      skip
      directives fuel versioned
    | .otherDirective => do skip; directives fuel versioned
    | _ => modify fun s => { s with handles := s.handles ++ commonHandles }

/-- Leave the marks of the end of a document behind. -/
def documentEnds : Nat → Compose Unit
  | 0 => throw .malformed
  | fuel + 1 => do
    match ← peek with
    | .documentEnd => do skip; documentEnds fuel
    | _ => pure ()

/-- Whether a document without content ends before a token. -/
def isBoundary : Token → Bool
  | .version _ | .tagHandle .. | .otherDirective | .documentStart | .documentEnd | .streamEnd => true
  | _ => false

/-- How many collections may stand in each other. -/
def maxDepth : Nat := 490

/-- Read the only document of a text, or nothing from a text without documents. -/
def document (fuel : Nat) : Compose (Option Nat) := do
  let first ← peek
  if first = .streamEnd then pure none
  else
    directives fuel false
    let root ←
      if isBoundary first then do
        if !(← isNext [.documentStart]) then throw .malformed
        skip
        if isBoundary (← peek) then addNothing else node true false fuel maxDepth
      else node true false fuel maxDepth
    documentEnds fuel
    if ← isNext [.streamEnd] then pure (some root) else throw .malformed

end Compose

/-- The graph of a text, unless the text holds no document. -/
def Graph.ofText (text : Text) : Except Fault (Option Graph) :=
  let tokens := (text.chars?.map tokens).getD [.broken .malformed]
  match (Compose.document (4 * tokens.length + 4)).run ⟨tokens, #[], [], []⟩ with
  | .ok (some root, s) => .ok (some ⟨s.nodes, root⟩)
  | .ok (none, _) => .ok none
  | .error fault => .error fault

end Conformance.Yaml
