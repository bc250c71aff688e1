import Conformance.Shell.Calendar
import Conformance.Shell.Utility.Basic

/-!
# Showing the time

`date` writes a point in time with a pattern: that of the present, of a phrase, of each line of a file, or the
one at which a file was changed.
-/

namespace Conformance.Shell

open Effect

/-- The pattern that is used where none is given. -/
def usualTimePattern : String :=
  "%a %b %e %H:%M:%S %Z %Y"

/-- The patterns that words stand for, with a letter between the day and the time of day. -/
def stampStyles (between point : String) : List (String × String) :=
  let day := "%Y-%m-%d" ++ between
  [("hours", day ++ "%H%:z"), ("minutes", day ++ "%H:%M%:z"), ("date", "%Y-%m-%d"),
    ("seconds", day ++ "%H:%M:%S%:z"), ("ns", day ++ "%H:%M:%S" ++ point ++ "%N%:z")]

/-- The pattern that an option asks for, the words that it takes where its own is none of them, or nothing
where it does not ask for a pattern. -/
def timePatternOf? (option : Char × String) : Option (Except (String × String × List String) String) :=
  let styled (name word : String) (styles : List (String × String)) :
      Except (String × String × List String) String :=
    let words := styles.map Prod.fst
    match (fullWord? (words.map ([·])) word).bind fun full => styles.lookup full with
    | some pattern => .ok pattern
    | none => .error (word, name, words)
  match option with
  | ('R', _) => some (.ok "%a, %d %b %Y %H:%M:%S %z")
  | ('I', "") => some (.ok "%Y-%m-%d")
  | ('I', word) => some (styled "--iso-8601" word (stampStyles "T" ","))
  | ('τ', word) => some (styled "--rfc-3339" word ((stampStyles " " ".").drop 2))
  | _ => none

/-- Show each point in time that a line of a text names. -/
def showTimes (pattern : String) (now : Instant) (text : String) : Effect Nat := do
  let results ← (wholeLines text).mapM fun line => do
    let phrase := withoutBreak line
    match readTime? phrase now with
    | some time => say (timeText pattern time ++ "\n"); pure true
    | none => tell ("invalid date " ++ quoted phrase); pure false
  pure (if results.all id then 0 else 1)

/-- Show the point in time that options name, with a pattern. -/
def showTime (g : Given) (pattern : String) : Effect Nat := do
  let m ← get
  let shown (time : Instant) : Effect Nat := do
    say (timeText pattern time ++ "\n")
    pure 0
  match g.get? 'd', g.get? 'f', g.get? 'r', g.get? 's' with
  | some phrase, _, _, _ =>
    match readTime? phrase m.time with
    | some time => shown time
    | none => failed ("invalid date " ++ quoted phrase) 1
  | _, some name, _, _ =>
    match ← readOperand? name with
    | .ok text => showTimes pattern m.time text
    | .error .isDirectory => failed s!"{shownName name}: read error: {Fault.isDirectory.text}" 1
    | .error fault => failed (nameAndFault name fault) 1
  | _, _, some name, _ =>
    match m.timeOf? name with
    | some time => shown time
    | none => failed (nameAndFault name .notFound) 1
  | _, _, _, some phrase =>
    match readTime? phrase m.time with
    | some time => do
      tell s!"cannot set date: {Fault.notPermitted.text}"
      let _ ← shown time
      pure 1
    | none => failed ("invalid date " ++ quoted phrase) 1
  | none, none, none, none => shown (if g.has 'ρ' then 1 else m.time)

/-- Show a point in time. -/
def dateProgram (arguments : List String) : Effect Nat :=
  withGiven "d:f:I::r:Rs:uτ:δρ" [("date", 'd'), ("debug", 'δ'), ("file", 'f'), ("iso-8601", 'I'),
      ("reference", 'r'), ("resolution", 'ρ'), ("rfc-822", 'R'), ("rfc-2822", 'R'), ("rfc-email", 'R'),
      ("rfc-3339", 'τ'), ("set", 's'), ("uct", 'u'), ("utc", 'u'), ("universal", 'u')] 1 arguments
      fun g => do
    let patterns := g.options.filterMap timePatternOf?
    let sources := ['d', 'f', 'r', 'ρ'].countP g.has
    let wrong? := patterns.findSome? fun
      | .error wrong => some wrong
      | .ok _ => none
    let readings := patterns.filterMap Except.toOption
    match wrong?, readings with
    | some (word, option, words), _ => misworded word option (words.map ([·])) 1
    | none, _ :: _ :: _ => failed "multiple output formats specified" 1
    | none, _ =>
      if 1 < sources then
        misused "the options to specify dates for printing are mutually exclusive" 1
      else if 0 < sources && g.has 's' then
        misused "the options to print and set the time may not be used together" 1
      else
        match g.operands, readings with
        | _ :: extra :: _, _ => misused ("extra operand " ++ quoted extra) 1
        | [operand], _ =>
          match operand.toList, readings with
          | '+' :: _, _ :: _ => failed "multiple output formats specified" 1
          | '+' :: pattern, [] => showTime g (String.ofList pattern)
          | _, _ =>
            if 0 < sources || g.has 's' then
              misused ("the argument " ++ quoted operand ++ " lacks a leading '+';\n" ++
                "when using an option to specify date(s), any non-option\n" ++
                "argument must be a format string beginning with '+'") 1
            else failed ("invalid date " ++ quoted operand) 1
        | [], pattern :: _ => showTime g pattern
        | [], [] => showTime g (if g.has 'ρ' then "%s.%N" else usualTimePattern)

end Conformance.Shell
