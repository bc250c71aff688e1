import Conformance.Text.Character

/-!
# Lines

Two ways to cut a text into lines: at line feeds only, where every line feed starts a new line, and at
every line break, where a break ends the line before it.
-/

namespace Conformance.Text

/-! ## Line feeds -/

/-- The lines of a text, cut at line feeds; there is always at least one. -/
def rows (text : List CodePoint) : List (List CodePoint) :=
  text.splitOn (.char '\n')

/-- The number of lines: one more than there are line feeds. -/
def countLines (text : Text) : Nat :=
  text.toList.count (.char '\n') + 1

@[simp]
theorem countLines_pos (text : Text) : 0 < countLines text :=
  Nat.succ_pos _

/-- Two texts with a line feed between them have as many lines as both together. -/
theorem countLines_append_lineFeed (a b : Text) :
    countLines (a ++ ("\n" : Text) ++ b) = countLines a + countLines b := by
  simp only [countLines, toList_append, List.count_append]
  have : List.count (.char '\n') ("\n" : Text).toList = 1 := by decide
  omega

/-! ## Line breaks -/

/-- Cut a text at its line breaks, given the lines already cut off and the line begun, both last first. -/
def breakLinesFrom (done : List (List CodePoint)) :
    List CodePoint → List CodePoint → List (List CodePoint)
  | [], [] => done.reverse
  | begun, [] => (begun.reverse :: done).reverse
  | begun, .char '\r' :: .char '\n' :: rest => breakLinesFrom (begun.reverse :: done) [] rest
  | begun, c :: rest =>
    if isLineBreak c then breakLinesFrom (begun.reverse :: done) [] rest
    else breakLinesFrom done (c :: begun) rest

/-- The lines of a text, each ended by a line break or by the end of the text.  A carriage return and the
line feed after it are one break. -/
def breakLines (text : List CodePoint) : List (List CodePoint) :=
  breakLinesFrom [] [] text

/-- Read carriage returns as line feeds, given the characters already read, last first. -/
def unifyBreaksFrom (done : List CodePoint) : List CodePoint → List CodePoint
  | [] => done.reverse
  | .char '\r' :: .char '\n' :: rest => unifyBreaksFrom ('\n' :: done) rest
  | .char '\r' :: rest => unifyBreaksFrom ('\n' :: done) rest
  | c :: rest => unifyBreaksFrom (c :: done) rest

/-- A text with each carriage return, alone or before a line feed, read as a line feed. -/
def unifyBreaks (text : List CodePoint) : List CodePoint :=
  unifyBreaksFrom [] text

end Conformance.Text
