/-!
# Places where two texts differ

The elements of two sequences that have to be taken away from the one and added to it so that the other comes
out, as few as can be.  The search goes on from both ends until it meets in the middle, and both halves are
compared in the same way.  Elements that the other sequence does not have are left out beforehand, and runs of
marked elements are put in the last place where they can stand.
-/

namespace Conformance.Shell

/-- A place where two texts differ: lines of the first in whose place lines of the second stand. -/
structure Hunk where
  oldStart : Nat
  oldCount : Nat
  newStart : Nat
  newCount : Nat
  deriving Repr, DecidableEq

namespace Hunk

/-- The first line of the first text behind the hunk. -/
def oldStop (h : Hunk) : Nat := h.oldStart + h.oldCount

/-- The first line of the second text behind the hunk. -/
def newStop (h : Hunk) : Nat := h.newStart + h.newCount

end Hunk

/-! ## Searching from both ends -/

/-- Two sequences that are compared. -/
structure Comparing where
  old : Array String
  new : Array String

namespace Comparing

/-- Whether elements are the same. -/
def same (c : Comparing) (x y : Int) : Bool :=
  c.old[x.toNat]? == c.new[y.toNat]?

/-- How far one can go on from a place where elements are the same, within limits.  The first number bounds
how far. -/
def slide (c : Comparing) (xEnd yEnd : Int) : Nat → Int → Int → Int
  | 0, x, _ => x
  | fuel + 1, x, y =>
    if x < xEnd && y < yEnd && c.same x y then c.slide xEnd yEnd fuel (x + 1) (y + 1) else x

/-- How far one can go back from a place where elements are the same, within limits. -/
def slideBack (c : Comparing) (xStart yStart : Int) : Nat → Int → Int → Int
  | 0, x, _ => x
  | fuel + 1, x, y =>
    if xStart < x && yStart < y && c.same (x - 1) (y - 1) then c.slideBack xStart yStart fuel (x - 1) (y - 1)
    else x

/-- How much of both sequences there is. -/
def size (c : Comparing) : Nat := c.old.size + c.new.size

end Comparing

/-- How far a search has come on each diagonal, from one diagonal to another. -/
structure Frontier where
  cells : Array Int
  shift : Int
  low : Int
  high : Int

namespace Frontier

/-- How far the search has come on a diagonal. -/
def cell (f : Frontier) (d : Int) : Int :=
  f.cells.getD (d + f.shift).toNat 0

/-- Note how far the search has come on a diagonal. -/
def put (f : Frontier) (d value : Int) : Frontier :=
  { f with cells := f.cells.setIfInBounds (d + f.shift).toNat value }

/-- A search that has only begun, within limits of diagonals. -/
def start (least greatest middle value : Int) : Frontier :=
  put ⟨Array.replicate (greatest - least + 3).toNat 0, 1 - least, middle, middle⟩ middle value

/-- Take in the diagonals on both sides as far as there are any; what lies outside is worse than all. -/
def widen (f : Frontier) (least greatest outside : Int) : Frontier :=
  let f := if least < f.low then { f.put (f.low - 2) outside with low := f.low - 1 }
    else { f with low := f.low + 1 }
  if f.high < greatest then { f.put (f.high + 2) outside with high := f.high + 1 }
  else { f with high := f.high - 1 }

/-- Whether a diagonal is one that the search has come to. -/
def covers (f : Frontier) (d : Int) : Bool :=
  f.low ≤ d && d ≤ f.high

end Frontier

/-- A part of both sequences: where it begins and ends. -/
structure Box where
  xStart : Int
  xEnd : Int
  yStart : Int
  yEnd : Int

/-- Farther than any place. -/
def farAway : Int := 4611686018427387904

namespace Comparing

/-- Go on by one step on each diagonal from the beginning; the answer has a place where both searches meet. -/
def stepForward (c : Comparing) (b : Box) (odd : Bool) (back : Frontier) :
    Nat → Int → Frontier → Except (Int × Int) Frontier
  | 0, _, f => .ok f
  | fuel + 1, d, f =>
    if d < f.low then .ok f
    else
      let low := f.cell (d - 1)
      let high := f.cell (d + 1)
      let first := if low < high then high else low + 1
      let x := c.slide b.xEnd b.yEnd (c.size + 1) first (first - d)
      let f := f.put d x
      if odd && back.covers d && back.cell d ≤ x then .error (x, x - d)
      else c.stepForward b odd back fuel (d - 2) f

/-- Go back by one step on each diagonal from the end; the answer has a place where both searches meet. -/
def stepBack (c : Comparing) (b : Box) (odd : Bool) (forth : Frontier) :
    Nat → Int → Frontier → Except (Int × Int) Frontier
  | 0, _, f => .ok f
  | fuel + 1, d, f =>
    if d < f.low then .ok f
    else
      let low := f.cell (d - 1)
      let high := f.cell (d + 1)
      let first := if low < high then low else high - 1
      let x := c.slideBack b.xStart b.yStart (c.size + 1) first (first - d)
      let f := f.put d x
      if !odd && forth.covers d && x ≤ forth.cell d then .error (x, x - d)
      else c.stepBack b odd forth fuel (d - 2) f

/-- A place in the middle of a part, found by searching from both ends.  The number bounds the steps. -/
def meet (c : Comparing) (b : Box) (odd : Bool) : Nat → Frontier → Frontier → Int × Int
  | 0, _, _ => (b.xStart, b.yEnd)
  | fuel + 1, forth, back =>
    let least := b.xStart - b.yEnd
    let greatest := b.xEnd - b.yStart
    let forth := forth.widen least greatest (-1)
    match c.stepForward b odd back (c.size + 2) forth.high forth with
    | .error place => place
    | .ok forth =>
      let back := back.widen least greatest farAway
      match c.stepBack b odd forth (c.size + 2) back.high back with
      | .error place => place
      | .ok back => c.meet b odd fuel forth back

/-- A place in the middle of a part. -/
def middle (c : Comparing) (b : Box) : Int × Int :=
  let least := b.xStart - b.yEnd
  let greatest := b.xEnd - b.yStart
  let first := b.xStart - b.yStart
  let last := b.xEnd - b.yEnd
  c.meet b ((first - last) % 2 != 0) (c.size + 2)
    (.start least greatest first b.xStart) (.start least greatest last b.xEnd)

end Comparing

/-- Which elements of two sequences are marked as different. -/
structure Marks where
  old : Array Bool
  new : Array Bool

/-- The numbers from one up to another. -/
def numbersFrom (start stop : Int) : List Nat :=
  (List.range (stop - start).toNat).map (· + start.toNat)

/-- Mark elements. -/
def markAll (flags : Array Bool) (places : List Nat) : Array Bool :=
  places.foldl (fun flags n => flags.setIfInBounds n true) flags

namespace Comparing

/-- Mark what differs in a part.  The number bounds how often the part is divided. -/
def mark (c : Comparing) : Nat → Box → Marks → Marks
  | 0, _, m => m
  | fuel + 1, b, m =>
    let x := c.slide b.xEnd b.yEnd (c.size + 1) b.xStart b.yStart
    let b : Box := { b with xStart := x, yStart := b.yStart + (x - b.xStart) }
    let x := c.slideBack b.xStart b.yStart (c.size + 1) b.xEnd b.yEnd
    let b : Box := { b with xEnd := x, yEnd := b.yEnd - (b.xEnd - x) }
    if b.xStart = b.xEnd then { m with new := markAll m.new (numbersFrom b.yStart b.yEnd) }
    else if b.yStart = b.yEnd then { m with old := markAll m.old (numbersFrom b.xStart b.xEnd) }
    else
      let (x, y) := c.middle b
      c.mark fuel { b with xStart := x, yStart := y } (c.mark fuel { b with xEnd := x, yEnd := y } m)

/-- Mark what differs. -/
def marks (c : Comparing) : Marks :=
  c.mark (c.size + 2) ⟨0, c.old.size, 0, c.new.size⟩
    ⟨Array.replicate c.old.size false, Array.replicate c.new.size false⟩

end Comparing

/-! ## Elements that are left out -/

/-- Whether an element is left out of the search: not at all, for certain, or if others around it are. -/
inductive LeftOut
  | kept
  | certain
  | provisional
  deriving Repr, DecidableEq

/-- A number doubled as often as another one can be divided by four. -/
def doubledBy : Nat → Nat → Nat → Nat
  | 0, _, start => start
  | fuel + 1, n, start => if n / 4 = 0 then start else doubledBy fuel (n / 4) (2 * start)

/-- Keep what is provisional, from one end of a run on, until three in a row are certain, or one that is so
stands far enough inside. -/
def keepAtEdge : Nat → Nat → List LeftOut → List LeftOut
  | _, _, [] => []
  | place, row, e :: rest =>
    if 8 ≤ place && e = .certain then e :: rest
    else
      match e with
      | .certain => if row = 2 then e :: rest else e :: keepAtEdge (place + 1) (row + 1) rest
      | .provisional | .kept => .kept :: keepAtEdge (place + 1) 0 rest

/-- Keep what is provisional where many such elements follow one another. -/
def keepLongRuns (least : Nat) : Nat → List LeftOut → List LeftOut
  | 0, run => run
  | fuel + 1, run =>
    match run with
    | [] => []
    | .provisional :: _ =>
      let row := run.takeWhile (· = .provisional)
      let rest := run.drop row.length
      (if least ≤ row.length then row.map fun _ => LeftOut.kept else row) ++ keepLongRuns least fuel rest
    | e :: rest => e :: keepLongRuns least fuel rest

/-- What is left out of a run of elements of which the first and the last are certain. -/
def settleRun (run : List LeftOut) : List LeftOut :=
  let provisional := run.count .provisional
  if run.length < provisional * 4 then run.map fun e => if e = .provisional then .kept else e
  else
    let least := doubledBy run.length (run.length / 4) 1 + 1
    let run := keepLongRuns least (run.length + 1) run
    (keepAtEdge 0 0 (keepAtEdge 0 0 run).reverse).reverse

/-- What is left out of a sequence; provisional elements are only where they stand between certain ones. -/
def settleAll : Nat → List LeftOut → List LeftOut
  | 0, all => all
  | fuel + 1, all =>
    match all with
    | [] => []
    | .certain :: _ =>
      let run := all.takeWhile (· != .kept)
      let behind := run.reverse.takeWhile (· = .provisional)
      let inner := run.take (run.length - behind.length)
      settleRun inner ++ behind.map (fun _ => LeftOut.kept) ++ settleAll fuel (all.drop run.length)
    | _ :: rest => .kept :: settleAll fuel rest

/-- What is left out of a sequence that is compared with another one. -/
def leftOut (sequence other : Array String) : List LeftOut :=
  let many := doubledBy sequence.size (sequence.size / 64) 5
  let first := sequence.toList.map fun e =>
    let n := other.count e
    if n = 0 then LeftOut.certain else if many < n then .provisional else .kept
  settleAll (first.length + 1) first

/-- The places of the elements that are kept. -/
def keptPlaces (all : List LeftOut) : Array Nat :=
  ((all.zipIdx).filterMap fun (e, n) => if e = .certain || e = .provisional then none else some n).toArray

/-- Mark what differs between two sequences, where what the other one lacks is marked beforehand. -/
def Comparing.allMarks (c : Comparing) (minimal : Bool) : Marks :=
  let spread (size : Nat) (places : Array Nat) (found : Array Bool) : Array Bool :=
    let flags := places.foldl (fun (flags : Array Bool) n => flags.setIfInBounds n false)
      (Array.replicate size true)
    (places.zip found).foldl (fun flags (n, isMarked) => flags.setIfInBounds n isMarked) flags
  let old := if minimal then (List.range c.old.size).toArray else keptPlaces (leftOut c.old c.new)
  let new := if minimal then (List.range c.new.size).toArray else keptPlaces (leftOut c.new c.old)
  let inner : Comparing := ⟨old.map fun n => c.old.getD n "", new.map fun n => c.new.getD n ""⟩
  let found := inner.marks
  ⟨spread c.old.size old found.old, spread c.new.size new found.new⟩

/-! ## Moving runs of marked elements -/

/-- Whether an element is marked; there is none in front of the first one. -/
def isMarked (flags : Array Bool) (place : Int) : Bool :=
  0 ≤ place && flags.getD place.toNat false

/-- Mark an element, or take its mark away. -/
def setMark (flags : Array Bool) (place : Int) (value : Bool) : Array Bool :=
  flags.setIfInBounds place.toNat value

/-- The first element from a place on that is not marked. -/
def pastMarks (flags : Array Bool) : Nat → Int → Int
  | 0, place => place
  | fuel + 1, place => if isMarked flags place then pastMarks flags fuel (place + 1) else place

/-- The last element up to a place that is not marked. -/
def beforeMarks (flags : Array Bool) : Nat → Int → Int
  | 0, place => place
  | fuel + 1, place => if isMarked flags place then beforeMarks flags fuel (place - 1) else place

/-- A run of marked elements that is moved, with the place in the other sequence that corresponds to its end,
and the end that it had where it met a run there. -/
structure MovingRun where
  flags : Array Bool
  start : Int
  stop : Int
  other : Int
  corresponding : Int

namespace MovingRun

/-- Move a run to the front as far as the elements are the same. -/
def back (items : Array String) (others : Array Bool) : Nat → MovingRun → MovingRun
  | 0, r => r
  | fuel + 1, r =>
    if 0 < r.start && items[(r.start - 1).toNat]? == items[(r.stop - 1).toNat]? then
      let flags := setMark (setMark r.flags (r.start - 1) true) (r.stop - 1) false
      let start := beforeMarks flags items.size (r.start - 2) + 1
      back items others fuel { r with
        flags := flags, start := start, stop := r.stop - 1
        other := beforeMarks others others.size (r.other - 1) }
    else r

/-- Move a run to the back as far as the elements are the same. -/
def forth (items : Array String) (others : Array Bool) : Nat → MovingRun → MovingRun
  | 0, r => r
  | fuel + 1, r =>
    if r.stop != items.size && items[r.start.toNat]? == items[r.stop.toNat]? then
      let flags := setMark (setMark r.flags r.start false) r.stop true
      let stop := pastMarks flags items.size (r.stop + 1)
      let other := pastMarks others others.size (r.other + 1)
      forth items others fuel { r with
        flags := flags, start := r.start + 1, stop := stop, other := other
        corresponding := if isMarked others (r.other + 1) then stop else r.corresponding }
    else r

/-- Move a run as far to the back as it goes, after it has taken in those in front that it meets. -/
def settle (items : Array String) (others : Array Bool) : Nat → MovingRun → MovingRun
  | 0, r => r
  | fuel + 1, r =>
    let length := r.stop - r.start
    let r := r.back items others (items.size + 1)
    let r := { r with corresponding := if isMarked others (r.other - 1) then r.stop else items.size }
    let r := r.forth items others (items.size + 1)
    if r.stop - r.start = length then r else settle items others fuel r

/-- Move a run back to where it meets one in the other sequence. -/
def align (others : Array Bool) : Nat → MovingRun → MovingRun
  | 0, r => r
  | fuel + 1, r =>
    if r.corresponding < r.stop then
      align others fuel { r with
        flags := setMark (setMark r.flags (r.start - 1) true) (r.stop - 1) false
        start := r.start - 1, stop := r.stop - 1
        other := beforeMarks others others.size (r.other - 1) }
    else r

end MovingRun

/-- Move all runs of marked elements, from a place on that corresponds to one in the other sequence. -/
def moveRuns (items : Array String) (others : Array Bool) : Nat → Int → Int → Array Bool → Array Bool
  | 0, _, _, flags => flags
  | fuel + 1, place, other, flags =>
    if items.size ≤ place then flags
    else if !isMarked flags place then
      moveRuns items others fuel (place + 1) (pastMarks others others.size other + 1) flags
    else
      let run : MovingRun := ⟨flags, place, pastMarks flags items.size place,
        pastMarks others others.size other, 0⟩
      let run := (run.settle items others (items.size + 1)).align others (items.size + 1)
      moveRuns items others fuel run.stop run.other run.flags

/-- Move all runs of marked elements in both sequences. -/
def Comparing.moved (c : Comparing) (m : Marks) : Marks :=
  let old := moveRuns c.old m.new (2 * c.size + 2) 0 0 m.old
  ⟨old, moveRuns c.new old (2 * c.size + 2) 0 0 m.new⟩

/-! ## Hunks -/

/-- The hunks that marks make, from places of both sequences on; the first places are counted from numbers
on.  The number bounds how many elements there are. -/
def Marks.hunks (m : Marks) (front : Nat) : Nat → Nat → Nat → List Hunk
  | 0, _, _ => []
  | fuel + 1, x, y =>
    if m.old.size ≤ x && m.new.size ≤ y then []
    else
      let xStop := (pastMarks m.old m.old.size x).toNat
      let yStop := (pastMarks m.new m.new.size y).toNat
      let rest := m.hunks front fuel (xStop + 1) (yStop + 1)
      if x < xStop || y < yStop then ⟨front + x, xStop - x, front + y, yStop - y⟩ :: rest else rest

/-- How many elements at the beginning two sequences have in common. -/
def commonFront (a b : List String) : Nat :=
  ((a.zip b).takeWhile fun (x, y) => x == y).length

/-- The hunks between two sequences.  What both have in common at the beginning and at the end is left out
but for a number of elements next to what differs; elements count as the same that have the same key. -/
def hunksBetween (minimal : Bool) (margin : Nat) (exact : List String × List String)
    (keys : Array String × Array String) : List Hunk :=
  let shorter := min exact.1.length exact.2.length
  let front := commonFront exact.1 exact.2 - margin
  let behind := min (commonFront exact.1.reverse exact.2.reverse) (shorter - front) - margin
  let c : Comparing := ⟨keys.1.extract front (keys.1.size - behind), keys.2.extract front (keys.2.size - behind)⟩
  (c.moved (c.allMarks minimal)).hunks front (c.size + 2) 0 0

end Conformance.Shell
