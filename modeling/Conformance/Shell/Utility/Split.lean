import Conformance.Shell.Utility.Basic
import Conformance.Shell.Process

/-!
# Files in pieces

`split` cuts a text into pieces of some lines or bytes, or into a number of pieces, and writes each of them
to a file of its own.  The names of the files count on in letters or digits; where nobody has said how long
they are, they grow before they run out.
-/

namespace Conformance.Shell

open Effect

/-! ## Names -/

/-- How the files are named: what stands in front, the signs to count with, the number of the first, how many
signs there are, whether these may become more, and what stands behind. -/
structure PieceNames where
  front : String
  alphabet : String
  first : Nat
  length : Nat
  grows : Bool
  behind : String

namespace PieceNames

/-- The signs of a number, of which the last counts least. -/
def signs (alphabet : List Char) : Nat → Nat → List Char → List Char
  | 0, _, later => later
  | length + 1, n, later =>
    signs alphabet length (n / alphabet.length) ((alphabet[n % alphabet.length]?).getD '?' :: later)

/-- The signs of a number that grow by two, the first of them the last one of the alphabet, before they run
out.  The number in front bounds how often they do. -/
def growing (alphabet : List Char) : Nat → Nat → Nat → List Char
  | 0, length, n => signs alphabet length n []
  | fuel + 1, length, n =>
    let count := (alphabet.length - 1) * (List.replicate (length - 1) alphabet.length).foldl (· * ·) 1
    if n < count then signs alphabet length n []
    else alphabet.getLastD '?' :: growing alphabet fuel (length + 1) (n - count)

/-- The name of a piece, unless there are no more names. -/
def name? (names : PieceNames) (index : Nat) : Option String :=
  let n := names.first + index
  let alphabet := names.alphabet.toList
  let shown (found : List Char) : Option String := some (names.front ++ String.ofList found ++ names.behind)
  if names.grows then shown (growing alphabet 16 names.length n)
  else if n < (List.replicate names.length alphabet.length).foldl (· * ·) 1 then
    shown (signs alphabet names.length n [])
  else none

end PieceNames

/-! ## Pieces -/

/-- How a text is cut: into pieces of lines or of bytes, into pieces of whole lines that have no more than some
bytes, or into a number of pieces, of which perhaps one alone is wanted. -/
inductive PieceWay
  | lines (count : Nat)
  | bytes (count : Nat)
  | wholeLines (bytes : Nat)
  | evenBytes (only : Option Nat) (count : Nat)
  | evenLines (only : Option Nat) (count : Nat)
  | inTurn (only : Option Nat) (count : Nat)
  deriving Repr, DecidableEq

namespace PieceWay

/-- The number of pieces that a way leads to. -/
def count? : PieceWay → Option Nat
  | .evenBytes _ n | .evenLines _ n | .inTurn _ n => some n
  | _ => none

/-- The one piece that is wanted. -/
def only? : PieceWay → Option Nat
  | .evenBytes only _ | .evenLines only _ | .inTurn only _ => only
  | _ => none

end PieceWay

/-- The lines of a text with their ends, given the sign that ends them. -/
def endedLines (ending : Char) : List Char → List Char → List (List Char)
  | [], [] => []
  | current, [] => [current.reverse]
  | current, c :: rest =>
    if c == ending then (c :: current).reverse :: endedLines ending [] rest
    else endedLines ending (c :: current) rest

/-- Pieces of some items of a list.  The number in front bounds how many there are. -/
def groupsOf {α : Type} (count : Nat) : Nat → List α → List (List α)
  | 0, _ | _, [] => []
  | fuel + 1, items => items.take count :: groupsOf count fuel (items.drop count)

/-- The pieces of whole lines that have no more than some bytes; a longer line is cut.  What has been taken for
the piece is given backwards, and the number in front bounds how many pieces there are. -/
def fillPieces (size : Nat) : Nat → List (List Char) → List (List Char) → Nat → List (List Char)
  | 0, _, _, _ => []
  | _ + 1, [], [], _ => []
  | _ + 1, [], taken, _ => [taken.reverse.flatten]
  | fuel + 1, line :: rest, taken, used =>
    if used + line.length ≤ size then
      if used + line.length = size then (line :: taken).reverse.flatten :: fillPieces size fuel rest [] 0
      else fillPieces size fuel rest (line :: taken) (used + line.length)
    else if taken.isEmpty then
      line.take size :: fillPieces size fuel (line.drop size :: rest) [] 0
    else taken.reverse.flatten :: fillPieces size fuel (line :: rest) [] 0

/-- A number of pieces as even as can be; the first ones take what remains. -/
def evenPieces (size remainder : Nat) : Nat → List Char → List (List Char)
  | 0, _ => []
  | left + 1, text =>
    let here := size + (if 0 < remainder then 1 else 0)
    text.take here :: evenPieces size (remainder - 1) left (text.drop here)

/-- How far cutting whole lines into even pieces has come: the number of the piece and where it ends, how much
has been written, and the pieces, last first, each of them with its parts, last first. -/
structure LineCut where
  piece : Nat
  ends : Nat
  written : Nat
  pieces : List (List (List Char))
  opensNew : Bool
  isShort : Bool

namespace LineCut

/-- Add what stands in a piece: a new one, or the one that has been begun. -/
def put (c : LineCut) (isNew : Bool) (text : List Char) : LineCut :=
  match isNew, c.pieces with
  | false, piece :: earlier => { c with pieces := (text :: piece) :: earlier }
  | _, pieces => { c with pieces := [text] :: pieces }

/-- Go on to the pieces that end behind what has been written.  Those between are empty.  The number in front
bounds how many there are. -/
def advance (size remainder : Nat) (isLast : Bool) : Nat → Bool → LineCut → LineCut
  | 0, _, c => c
  | fuel + 1, next, c =>
    if !next && c.written < c.ends then c
    else if !next && isLast then { c with isShort := true }
    else
      let c := { c with
        ends := c.ends + size + (if c.piece < remainder then 1 else 0), piece := c.piece + 1 }
      if c.ends ≤ c.written then advance size remainder isLast fuel next (c.put true [])
      else advance size remainder isLast fuel false c

/-- Put each line where its first byte belongs. -/
def cut (size remainder limit : Nat) (ending : Char) : Nat → List Char → LineCut → LineCut
  | 0, _, c => c
  | _ + 1, [], c => c
  | fuel + 1, text, c =>
    let skipped := min text.length (c.ends - 1 - c.written)
    let behind := text.drop skipped
    let upTo := (behind.takeWhile (· != ending)).length
    let next := upTo < behind.length
    let length := if next then skipped + upTo + 1 else text.length
    let c := c.put c.opensNew (text.take length)
    let c := { c with written := c.written + length, opensNew := next, isShort := false }
    let rest := text.drop length
    cut size remainder limit ending fuel rest (advance size remainder rest.isEmpty limit next c)

/-- The pieces, with empty ones behind them up to a number. -/
def result (c : LineCut) (count : Nat) : List (List Char) :=
  let piece := if c.isShort then c.piece + 1 else c.piece
  (c.pieces.reverse.map fun parts => parts.reverse.flatten) ++ List.replicate (count + 1 - piece) []

end LineCut

/-- The most pieces for which there can be names. -/
def pieceLimit : Nat := 500000

/-- The pieces of a text. -/
def piecesOf (way : PieceWay) (ending : Char) (text : List Char) : List (List Char) :=
  let length := text.length
  match way with
  | .lines count => (groupsOf count (length + 1) (endedLines ending [] text)).map List.flatten
  | .bytes count => groupsOf count (length + 1) text
  | .wholeLines bytes => fillPieces bytes (3 * length + 4) (endedLines ending [] text) [] 0
  | .evenBytes _ count => evenPieces (length / count) (length % count) count text
  | .evenLines _ count =>
    let size := length / count
    let remainder := length % count
    let begun : LineCut := ⟨1, size + (if 0 < remainder then 1 else 0), 0, [], true, false⟩
    (LineCut.cut size remainder (min pieceLimit (count + 20000)) ending (length + 1) text begun).result count
  | .inTurn _ count =>
    let lines := (endedLines ending [] text).zipIdx
    (List.range count).map fun k => (lines.filterMap fun (line, n) =>
      if n % count = k then some line else none).flatten

/-! ## Options -/

/-- What options ask for. -/
structure PiecePlan where
  way : Option PieceWay
  /-- The number of lines that digits give. -/
  digits : Option Nat
  length : Nat
  alphabet : String
  first : Option String
  ending : Option Char
  behind : String

/-- What is wrong with options, and whether it is told how they are used. -/
abbrev PieceFault := Bool × String

/-- A number that may not be zero. -/
def pieceNumber (what text : String) : Except PieceFault Nat :=
  match text.toNat? with
  | some n => if n = 0 then .error (false, s!"invalid {what}: " ++ quoted text) else .ok n
  | none => .error (false, s!"invalid {what}: " ++ quoted text)

/-- A number of bytes that may not be zero. -/
def pieceBytes (what text : String) : Except PieceFault Nat :=
  match if (text.toList.headD ' ').isDigit then readSize? text else none with
  | none | some 0 => .error (false, s!"invalid {what}: " ++ quoted text)
  | some n => .ok n

/-- A number of pieces, in front of which one of them may stand. -/
def pieceShare (text : String) : Except PieceFault (Option Nat × Nat) := do
  match text.splitOn "/" with
  | only :: count :: more =>
    match only.toNat? with
    | some k =>
      let n ← pieceNumber "number of chunks" ("/".intercalate (count :: more))
      if k = 0 || n < k then .error (false, "invalid chunk number: " ++ quoted only)
      pure (some k, n)
    | none => .error (false, "invalid number of chunks: " ++ quoted text)
  | _ => do
    let n ← pieceNumber "number of chunks" text
    pure (none, n)

/-- The way that a number of pieces is asked for. -/
def pieceShareWay (text : String) : Except PieceFault PieceWay := do
  match text.toList with
  | 'l' :: '/' :: rest =>
    let (only, n) ← pieceShare (String.ofList rest)
    pure (.evenLines only n)
  | 'r' :: '/' :: rest =>
    let (only, n) ← pieceShare (String.ofList rest)
    pure (.inTurn only n)
  | _ =>
    let (only, n) ← pieceShare text
    pure (.evenBytes only n)

namespace PiecePlan

/-- Set the way, unless one is known. -/
def withWay (p : PiecePlan) (way : Except PieceFault PieceWay) : Except PieceFault PiecePlan := do
  if p.way.isSome || p.digits.isSome then .error (true, "cannot split in more than one way")
  let way ← way
  pure { p with way := some way }

/-- Count with digits from a number on. -/
def withDigits (p : PiecePlan) (alphabet kind start : String) : Except PieceFault PiecePlan :=
  if start.toList.all alphabet.toList.contains then
    let digits := start.toList.dropWhile (· == '0')
    let first := if start.isEmpty then p.first else
      some (String.ofList (if digits.isEmpty then ['0'] else digits))
    .ok { p with alphabet := alphabet, first := first }
  else .error (true, s!"{quoted start}: invalid start value for {kind} suffix")

/-- Take one option. -/
def take (p : PiecePlan) (option : Char × String) : Except PieceFault PiecePlan :=
  match option with
  | ('l', text) => p.withWay ((pieceNumber "number of lines" text).map .lines)
  | ('b', text) => p.withWay ((pieceBytes "number of bytes" text).map .bytes)
  | ('C', text) => p.withWay ((pieceBytes "number of lines" text).map .wholeLines)
  | ('n', text) => p.withWay (pieceShareWay text)
  | ('a', text) =>
    match text.toNat? with
    | some n => .ok { p with length := n }
    | none =>
      let behind := if text.startsWith "-" && (text.drop 1).toNat?.isSome then
        ": Numerical result out of range" else ""
      .error (false, "invalid suffix length: " ++ quoted text ++ behind)
  | ('σ', text) =>
    if text.toList.contains '/' then
      .error (true, "invalid suffix " ++ quoted text ++ ", contains directory separator")
    else .ok { p with behind := text }
  | ('t', text) =>
    let set (c : Char) : Except PieceFault PiecePlan :=
      if p.ending.any (· != c) then .error (false, "multiple separator characters specified")
      else .ok { p with ending := some c }
    match text.toList with
    | [] => .error (false, "empty record separator")
    | [c] => set c
    | ['\\', '0'] => set '\x00'
    | _ => .error (false, "multi-character separator " ++ quoted text)
  | ('d', start) | ('δ', start) => p.withDigits "0123456789" "numerical" start
  | ('x', start) | ('χ', start) => p.withDigits "0123456789abcdef" "hexadecimal" start
  | (c, _) =>
    if c.isDigit then
      if p.way.isSome then .error (true, "cannot split in more than one way")
      else .ok { p with digits := some (10 * p.digits.getD 0 + (c.toNat - '0'.toNat)) }
    else .ok p

/-- The way that a text is cut. -/
def wayToCut (p : PiecePlan) : PieceWay :=
  p.way.getD (.lines (p.digits.getD 1000))

/-- How many signs a number has, given how many of them there are. -/
def signsOf (base : Nat) : Nat → Nat → Nat
  | 0, _ => 1
  | fuel + 1, n => if n < base then 1 else 1 + signsOf base fuel (n / base)

/-- The names of the files. -/
def names (p : PiecePlan) (front : String) : Except PieceFault PieceNames := do
  let base := p.alphabet.length
  let start := p.first.bind String.toNat?
  let needed := (p.wayToCut.count?.map fun n =>
    let last := n - 1 + ((start.filter (· < n)).getD 0)
    signsOf base last last).getD 0
  if p.length != 0 && p.length < needed then
    .error (false, s!"the suffix length needs to be at least {needed}")
  let length := if p.length = 0 then max 2 needed else p.length
  let grows := p.first.isNone && p.way.all (·.count?.isNone) && p.length = 0
  if p.first.any (length < ·.length) then
    .error (true, "numerical suffix start value is too large for the suffix length")
  let first := ((p.first.getD "").toList.foldl
    (fun n c => base * n + ((p.alphabet.toList.idxOf? c).getD 0)) 0)
  pure ⟨front, p.alphabet, first, length, grows, p.behind⟩

end PiecePlan

/-! ## Writing -/

/-- Write a piece to a file; the answer is the status, unless all is well. -/
def writePiece (input name text : String) (isTold : Bool) : Effect (Option Nat) := do
  if isTold then say ("creating file " ++ quotedName name ++ "\n")
  let path ← pathOf name
  let m ← get
  if m.placeOf true input |>.toOption |>.any (· == path) then
    some <$> failed (quotedName name ++ " would overwrite input; aborting") 1
  else
    match ← lookUp name, ← creationFault? name with
    | .ok .sink, _ => pure none
    | .ok (.directory _), _ => some <$> failed (nameAndFault name .isDirectory) 1
    | .ok (.link _), _ => some <$> failed (nameAndFault name .looping) 1
    | .ok (.file ..), _ | .error .notFound, none =>
      putFile path text
      pure none
    | .error .notFound, some fault | .error fault, _ => some <$> failed (nameAndFault name fault) 1

/-- Hand a piece to a command; the answer is the status, unless all is well. -/
def filterPiece (start : Starter) (command name text : String) (isTold : Bool) : Effect (Option Nat) := do
  if isTold then say ("executing with FILE=" ++ quotedName name ++ "\n")
  let ended ← shellApart start "sh" (do
    let place ← openChannel (.source text.toList 0)
    connect 0 (some place)
    putBinding "FILE" ⟨some name, true, false⟩) command
  match ended with
  | .status 0 => pure none
  | .status n => some <$> failed s!"with FILE={name}, exit {n} from command: {command}" n
  | .signal n =>
    if n = 13 then pure none
    else some <$> failed s!"with FILE={name}, signal {signalName n} from command: {command}" (128 + n)

/-- Write pieces, one after the other. -/
def writePieces (write : String → String → Effect (Option Nat)) (names : PieceNames) :
    List (List Char × Nat) → Effect Nat
  | [] => pure 0
  | (piece, index) :: rest => do
    match names.name? index with
    | none => failed "output file suffixes exhausted" 1
    | some name =>
      match ← write name (String.ofList piece) with
      | some status => pure status
      | none => writePieces write names rest

/-- Cut a text into pieces and write each of them. -/
def splitProgram (start : Starter) (arguments : List String) : Effect Nat :=
  withGiven "0123456789C:a:b:dn:el:t:uxσ:φ:υδ::χ::" [("additional-suffix", 'σ'), ("bytes", 'b'),
      ("line-bytes", 'C'), ("lines", 'l'), ("number", 'n'), ("elide-empty-files", 'e'), ("unbuffered", 'u'),
      ("suffix-length", 'a'), ("numeric-suffixes", 'δ'), ("hex-suffixes", 'χ'), ("filter", 'φ'),
      ("verbose", 'υ'), ("separator", 't')] 1 arguments fun g => do
    let isTold := g.has 'υ'
    let begun : PiecePlan := ⟨none, none, 0, "abcdefghijklmnopqrstuvwxyz", none, none, ""⟩
    let plan : Except PieceFault (PiecePlan × PieceNames × String) := do
      let p ← g.options.foldlM PiecePlan.take begun
      if (p.wayToCut.only?).isSome && g.has 'φ' then
        .error (true, "--filter does not process a chunk extracted to stdout")
      if p.digits == some 0 then .error (true, "invalid number of lines: " ++ quoted "0")
      match g.operands with
      | _ :: _ :: extra :: _ => .error (true, "extra operand " ++ quoted extra)
      | _ => pure ()
      let names ← p.names (g.operands[1]?.getD "x")
      pure (p, names, g.operands.headD "-")
    match plan with
    | .error (true, message) => misused message 1
    | .error (false, message) => failed message 1
    | .ok (p, names, input) =>
      match ← readOperand? input with
      | .error .isDirectory =>
        let what := if p.wayToCut.count?.isSome then "cannot determine file size: " else ""
        failed s!"{shownName input}: {what}{Fault.isDirectory.text}" 1
      | .error fault => failed ("cannot open " ++ quotedName input ++ " for reading: " ++ fault.text) 1
      | .ok text =>
        let pieces := piecesOf p.wayToCut (p.ending.getD '\n') text.toList
        match p.wayToCut.only? with
        | some k =>
          say (String.ofList (pieces[k - 1]?.getD []))
          pure 0
        | none =>
          let kept := if g.has 'e' then pieces.filter (!·.isEmpty) else pieces
          let write := match g.get? 'φ' with
            | some command => fun name text => filterPiece start command name text isTold
            | none => fun name text => writePiece input name text isTold
          writePieces write names kept.zipIdx

end Conformance.Shell
