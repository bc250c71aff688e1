import Conformance.Shell.Format

/-!
# Days and times

Points in time as days of the calendar with times of day, in the zone of Greenwich; the patterns that they
are written with, and the phrases that they are read from.  Days are counted in years that start in March, so
that a leap day is the last of its year.
-/

namespace Conformance.Shell

/-! ## Days -/

/-- The number of a day, counted from the start of 1970; months and days may lie outside of the calendar. -/
def dayNumber (year month day : Int) : Int :=
  let months := year * 12 + (month - 1)
  let fromMarch := (months - 2) % 12
  let marchYear := (months - 2) / 12
  let era := marchYear / 400
  let yearOfEra := marchYear % 400
  let dayOfYear := (153 * fromMarch + 2) / 5
  era * 146097 + yearOfEra * 365 + yearOfEra / 4 - yearOfEra / 100 + dayOfYear + day - 1 - 719468

/-- A day of the calendar. -/
structure CalendarDay where
  year : Int
  month : Int
  day : Int
  deriving Repr, DecidableEq

/-- The day with a number. -/
def CalendarDay.ofNumber (number : Int) : CalendarDay :=
  let shifted := number + 719468
  let inEra := shifted % 146097
  let yearOfEra := (inEra - inEra / 1460 + inEra / 36524 - inEra / 146096) / 365
  let inYear := inEra - (365 * yearOfEra + yearOfEra / 4 - yearOfEra / 100)
  let fromMarch := (5 * inYear + 2) / 153
  let month := if fromMarch < 10 then fromMarch + 3 else fromMarch - 9
  ⟨yearOfEra + 400 * (shifted / 146097) + (if month ≤ 2 then 1 else 0), month,
    inYear - (153 * fromMarch + 2) / 5 + 1⟩

example : CalendarDay.ofNumber 0 = ⟨1970, 1, 1⟩ := by decide
example : CalendarDay.ofNumber (-1) = ⟨1969, 12, 31⟩ := by decide
example : CalendarDay.ofNumber 11016 = ⟨2000, 2, 29⟩ := by decide
example : dayNumber 2000 2 29 = 11016 := by decide
example : dayNumber 2000 14 1 = dayNumber 2001 2 1 := by decide

/-- A point in time, in nanoseconds since the start of 1970. -/
abbrev Instant := Int

/-- A point in time with its parts. -/
structure Moment where
  /-- The number of the day. -/
  number : Int
  day : CalendarDay
  /-- The second of the day. -/
  second : Int
  nanosecond : Int
  deriving Repr, DecidableEq

/-- The number of nanoseconds in a second. -/
def nanosPerSecond : Int := 1000000000

/-- The parts of a point in time. -/
def Moment.of (time : Instant) : Moment :=
  let seconds := time / nanosPerSecond
  let number := seconds / 86400
  ⟨number, .ofNumber number, seconds % 86400, time % nanosPerSecond⟩

namespace Moment

/-- The whole seconds since the start of 1970. -/
def seconds (m : Moment) : Int := m.number * 86400 + m.second

/-- The hour of the day. -/
def hour (m : Moment) : Int := m.second / 3600

/-- The minute of the hour. -/
def minute (m : Moment) : Int := m.second / 60 % 60

/-- The day of the week; that of a Sunday is zero. -/
def weekday (m : Moment) : Int := (m.number + 4) % 7

/-- The day of the year, from zero on. -/
def yearDay (m : Moment) : Int := m.number - dayNumber m.day.year 1 1

/-- The week of the year, where a week begins with a day of the week. -/
def week (m : Moment) (start : Int) : Int :=
  (m.yearDay + 7 - (m.weekday - start) % 7) / 7

/-- The year and the week by the rule that a week belongs to the year in which its Thursday lies. -/
def isoWeek (m : Moment) : Int × Int :=
  let thursday := m.number - (m.weekday - 1) % 7 + 3
  let year := (CalendarDay.ofNumber thursday).year
  (year, (thursday - dayNumber year 1 1) / 7 + 1)

end Moment

/-! ## Writing -/

/-- The names of the months. -/
def monthNames : List String :=
  ["January", "February", "March", "April", "May", "June", "July", "August", "September", "October",
    "November", "December"]

/-- The names of the days of the week. -/
def weekdayNames : List String :=
  ["Sunday", "Monday", "Tuesday", "Wednesday", "Thursday", "Friday", "Saturday"]

/-- How a part of a time is written: what fills its field, its width, and whether its case is changed. -/
structure TimeField where
  fill : Option Char
  width : Option Nat
  upper : Bool
  opposite : Bool

namespace TimeField

/-- A number with what fills the field in front of it. -/
def number (f : TimeField) (usualFill : Char) (usualWidth : Nat) (n : Int) : String :=
  let digits := toString n.natAbs
  let sign := if n < 0 then "-" else ""
  let width := f.width.getD usualWidth
  match f.fill.getD usualFill with
  | '-' => sign ++ digits
  | '_' => "".pushn ' ' (width - digits.length - sign.length) ++ sign ++ digits
  | _ => sign ++ "".pushn '0' (width - digits.length - sign.length) ++ digits

/-- A text with blanks in front of it. -/
def text (f : TimeField) (s : String) : String :=
  let s := if f.upper then s.toUpper else s
  match f.fill with
  | some '0' => "".pushn '0' (f.width.getD 0 - s.length) ++ s
  | some '-' => s
  | _ => "".pushn ' ' (f.width.getD 0 - s.length) ++ s

end TimeField

/-- Twelve hours of a day, counted from twelve. -/
def clockHour (hour : Int) : Int :=
  if hour % 12 = 0 then 12 else hour % 12

/-- The patterns that single letters stand for. -/
def timeAbbreviations : List (Char × String) :=
  [('c', "%a %b %e %H:%M:%S %Y"), ('D', "%m/%d/%y"), ('F', "%Y-%m-%d"), ('r', "%I:%M:%S %p"), ('R', "%H:%M"),
    ('T', "%H:%M:%S"), ('x', "%m/%d/%y"), ('X', "%H:%M:%S"), ('h', "%b")]

/-- One part of a time, as a letter asks for it. -/
def timePart? (m : Moment) (f : TimeField) (letter : Char) : Option String :=
  let named (names : List String) (n : Int) (length : Nat) : String :=
    f.text (let name := String.ofList ((names[n.toNat]?.getD "?").toList.take length)
      if f.opposite then name.toUpper else name)
  match letter with
  | 'a' => some (named weekdayNames m.weekday 3)
  | 'A' => some (named weekdayNames m.weekday 20)
  | 'b' => some (named monthNames (m.day.month - 1) 3)
  | 'B' => some (named monthNames (m.day.month - 1) 20)
  | 'C' => some (f.number '0' 2 (m.day.year / 100))
  | 'd' => some (f.number '0' 2 m.day.day)
  | 'e' => some (f.number '_' 2 m.day.day)
  | 'g' => some (f.number '0' 2 (m.isoWeek.1 % 100))
  | 'G' => some (f.number '0' 4 m.isoWeek.1)
  | 'H' => some (f.number '0' 2 m.hour)
  | 'I' => some (f.number '0' 2 (clockHour m.hour))
  | 'j' => some (f.number '0' 3 (m.yearDay + 1))
  | 'k' => some (f.number '_' 2 m.hour)
  | 'l' => some (f.number '_' 2 (clockHour m.hour))
  | 'm' => some (f.number '0' 2 m.day.month)
  | 'M' => some (f.number '0' 2 m.minute)
  | 'n' => some "\n"
  | 'N' =>
    let digits := String.ofList (Decimal.padZeros 9 (Decimal.digits m.nanosecond.natAbs))
    some (match f.fill, f.width with
      | some '-', _ => ((digits.toList.reverse.dropWhile (· == '0')).reverse |> String.ofList)
      | _, some w => String.ofList (digits.toList.take w) ++ "".pushn '0' (w - 9)
      | _, none => digits)
  | 'p' =>
    let name := if m.hour < 12 then "AM" else "PM"
    some (f.text (if f.opposite then name.toLower else name))
  | 'P' => some (f.text (if m.hour < 12 then "am" else "pm"))
  | 'q' => some (f.number '0' 1 ((m.day.month - 1) / 3 + 1))
  | 's' => some (f.number '0' 1 m.seconds)
  | 'S' => some (f.number '0' 2 (m.second % 60))
  | 't' => some "\t"
  | 'u' => some (f.number '0' 1 (if m.weekday = 0 then 7 else m.weekday))
  | 'U' => some (f.number '0' 2 (m.week 0))
  | 'V' => some (f.number '0' 2 m.isoWeek.2)
  | 'w' => some (f.number '0' 1 m.weekday)
  | 'W' => some (f.number '0' 2 (m.week 1))
  | 'y' => some (f.number '0' 2 (m.day.year % 100))
  | 'Y' => some (f.number '0' 4 m.day.year)
  | 'z' => some "+0000"
  | 'Z' => some (f.text (if f.opposite then "utc" else "UTC"))
  | '%' => some "%"
  | _ => none

/-- Write a point in time with a pattern.  The number bounds how long the pattern is, with those that single
letters stand for. -/
def writeTime (m : Moment) : Nat → List Char → String
  | 0, _ => ""
  | _ + 1, [] => ""
  | fuel + 1, '%' :: rest =>
    let flags := rest.takeWhile "-_0^#+".toList.contains
    let after := rest.drop flags.length
    let digits := after.takeWhile Char.isDigit
    let after := after.drop digits.length
    let colons := (after.takeWhile (· == ':')).length
    let after := after.drop colons
    let after := match after with
      | 'E' :: c :: more => if Char.isAlpha c then c :: more else after
      | 'O' :: c :: more => if Char.isAlpha c then c :: more else after
      | _ => after
    let fill := (flags.reverse.find? "-_0+".toList.contains).map fun c => if c == '+' then '0' else c
    let f : TimeField :=
      ⟨fill, (String.ofList digits).toNat?, flags.contains '^', flags.contains '#'⟩
    match after with
    | letter :: more =>
      let shown :=
        if 0 < colons then
          if letter == 'z' && colons ≤ 3 then
            some (if colons = 1 then "+00:00" else if colons = 2 then "+00:00:00" else "+00")
          else none
        else
          match timeAbbreviations.lookup letter with
          | some pattern => some (f.text (writeTime m fuel pattern.toList))
          | none => timePart? m f letter
      match shown with
      | some text => text ++ writeTime m fuel more
      | none =>
        String.ofList ('%' :: rest.take (rest.length - more.length)) ++ writeTime m fuel more
    | [] => "%" ++ String.ofList rest
  | fuel + 1, c :: rest => String.ofList (c :: (writeTime m fuel rest).toList)

/-- A point in time, written with a pattern. -/
def timeText (pattern : String) (time : Instant) : String :=
  writeTime (.of time) (pattern.length + 64) pattern.toList

/-! ## Reading -/

/-- A part of a phrase that names a point in time. -/
inductive TimeWord
  | number (digits : String)
  | word (letters : String)
  | sign (c : Char)
  deriving Repr, DecidableEq

/-- The parts of a phrase; blanks, commas and what stands in parentheses only separate them.  The number
bounds how many there are. -/
def timeWords : Nat → List Char → List TimeWord
  | 0, _ | _, [] => []
  | fuel + 1, c :: rest =>
    if c.isDigit then
      let digits := rest.takeWhile Char.isDigit
      .number (String.ofList (c :: digits)) :: timeWords fuel (rest.drop digits.length)
    else if c.isAlpha then
      let letters := rest.takeWhile fun c => c.isAlpha || c == '.'
      let word := (c :: letters).filter (· != '.')
      .word (String.ofList word).toLower :: timeWords fuel (rest.drop letters.length)
    else if isSpace c || c == ',' then timeWords fuel rest
    else if c == '(' then timeWords fuel ((rest.dropWhile (· != ')')).drop 1)
    else .sign c :: timeWords fuel rest

/-- What is known of a point in time while its phrase is read. -/
structure TimePhrase where
  date : Option (Int × Int × Int)
  /-- The nanosecond of the day. -/
  clock : Option Int
  /-- How many seconds the zone is in front of that of Greenwich. -/
  zone : Option Int
  weekday : Option (Int × Int)
  months : Int
  days : Int
  nanoseconds : Int
  isRelative : Bool

namespace TimePhrase

/-- Nothing is known. -/
def empty : TimePhrase :=
  ⟨none, none, none, none, 0, 0, 0, false⟩

/-- The place of a name among names, of which it has at least three letters. -/
def nameIndex? (names : List String) (word : String) : Option Nat :=
  (names.zipIdx.find? fun (name, _) =>
    3 ≤ word.length && (name.toLower == word || String.ofList (name.toLower.toList.take 3) == word ||
      (word == "sept" && name == "September") || (word == "tues" && name == "Tuesday") ||
      (["wednes", "thur", "thurs"].contains word && name.toLower.startsWith word))).map Prod.snd

/-- Add a number of units. -/
def add? (p : TimePhrase) (n : Int) (unit : String) : Option TimePhrase :=
  let single := if unit.endsWith "s" && unit.length > 1 then (unit.dropEnd 1).toString else unit
  let p := { p with isRelative := true }
  match single with
  | "year" => some { p with months := p.months + 12 * n }
  | "month" => some { p with months := p.months + n }
  | "fortnight" => some { p with days := p.days + 14 * n }
  | "week" => some { p with days := p.days + 7 * n }
  | "day" => some { p with days := p.days + n }
  | "hour" => some { p with nanoseconds := p.nanoseconds + 3600 * n * nanosPerSecond }
  | "minute" | "min" => some { p with nanoseconds := p.nanoseconds + 60 * n * nanosPerSecond }
  | "second" | "sec" => some { p with nanoseconds := p.nanoseconds + n * nanosPerSecond }
  | _ => none

/-- The words for small numbers. -/
def ordinals : List (String × Int) :=
  [("last", -1), ("this", 0), ("next", 1), ("first", 1), ("third", 3), ("fourth", 4), ("fifth", 5),
    ("sixth", 6), ("seventh", 7), ("eighth", 8), ("ninth", 9), ("tenth", 10), ("eleventh", 11),
    ("twelfth", 12)]

/-- The names of zones with their hours in front of that of Greenwich. -/
def zoneNames : List (String × Int) :=
  [("z", 0), ("utc", 0), ("gmt", 0), ("ut", 0), ("wet", 0), ("est", -5), ("edt", -4), ("cst", -6), ("cdt", -5),
    ("mst", -7), ("mdt", -6), ("pst", -8), ("pdt", -7), ("cet", 1), ("cest", 2), ("bst", 1), ("eet", 2),
    ("jst", 9)]

/-- A year that may be given with two digits. -/
def fullYear (digits : String) : Int :=
  let n : Int := (digits.toNat?.getD 0 : Nat)
  if digits.length ≤ 2 then if n < 69 then 2000 + n else 1900 + n else n

/-- Set the day, unless one is known or there is no such day. -/
def withDate? (p : TimePhrase) (year month day : Int) : Option TimePhrase :=
  let isDay := CalendarDay.ofNumber (dayNumber year month day) == ⟨year, month, day⟩
  if p.date.isSome || !isDay then none else some { p with date := some (year, month, day) }

/-- Set the time of day, unless one is known or there is no such time. -/
def withClock? (p : TimePhrase) (hour minute second : Int) (fraction : String) : Option TimePhrase :=
  let digits := String.ofList ((fraction ++ "000000000").toList.take 9)
  let n : Int := (digits.toNat?.getD 0 : Nat)
  if p.clock.isSome || 24 ≤ hour || 60 ≤ minute || 61 ≤ second then none
  else some { p with clock := some ((hour * 3600 + minute * 60 + second) * nanosPerSecond + n) }

/-- The hour of a day, given which half of it is meant. -/
def halfHour? (hour : Int) (half : String) : Option Int :=
  if hour < 1 || 12 < hour then none
  else if half == "am" then some (hour % 12)
  else if half == "pm" then some (hour % 12 + 12) else none

/-- The seconds that a zone is in front of that of Greenwich, from its digits and those behind a colon. -/
def zoneSeconds (negative : Bool) (digits : String) (minutes : Option String) : Int :=
  let n : Int := (digits.toNat?.getD 0 : Nat)
  let total := match minutes with
    | some m => n * 3600 + (m.toNat?.getD 0 : Nat) * 60
    | none => if digits.length ≤ 2 then n * 3600 else n / 100 * 3600 + n % 100 * 60
  if negative then -total else total

/-- A number as digits mean it. -/
def value (digits : String) : Int :=
  (digits.toNat?.getD 0 : Nat)

/-- Read the zone that may stand behind a time of day. -/
def readZone (p : TimePhrase) : List TimeWord → TimePhrase × List TimeWord
  | .sign c :: .number digits :: .sign ':' :: .number minutes :: rest =>
    if "+-".toList.contains c then
      ({ p with zone := some (zoneSeconds (c == '-') digits (some minutes)) }, rest)
    else (p, .sign c :: .number digits :: .sign ':' :: .number minutes :: rest)
  | .sign c :: .number digits :: .word unit :: rest =>
    if "+-".toList.contains c && (p.add? 1 unit).isNone then
      ({ p with zone := some (zoneSeconds (c == '-') digits none) }, .word unit :: rest)
    else (p, .sign c :: .number digits :: .word unit :: rest)
  | .sign c :: .number digits :: rest =>
    if "+-".toList.contains c then ({ p with zone := some (zoneSeconds (c == '-') digits none) }, rest)
    else (p, .sign c :: .number digits :: rest)
  | rest => (p, rest)

/-- Read a time of day behind its hour and a colon. -/
def readClock (p : TimePhrase) (hour : String) (rest : List TimeWord) :
    Option (TimePhrase × List TimeWord) := do
  let (minute, rest) ← match rest with
    | .number minute :: rest => some (minute, rest)
    | _ => none
  let (second, fraction, rest) := match rest with
    | .sign ':' :: .number second :: .sign '.' :: .number fraction :: rest => (second, fraction, rest)
    | .sign ':' :: .number second :: rest => (second, "", rest)
    | rest => ("0", "", rest)
  match rest with
  | .word half :: after =>
    match halfHour? (value hour) half with
    | some h => do
      let p ← p.withClock? h (value minute) (value second) fraction
      pure (p, after)
    | none => do
      let p ← p.withClock? (value hour) (value minute) (value second) fraction
      pure (p, rest)
  | rest => do
    let p ← p.withClock? (value hour) (value minute) (value second) fraction
    pure (p.readZone rest)

/-- Read one item of a phrase that begins with a number. -/
def readNumber (p : TimePhrase) (digits : String) (rest : List TimeWord) (year : Int) :
    Option (TimePhrase × List TimeWord) :=
  match rest with
  | .sign '-' :: .number month :: .sign '-' :: .number day :: more => do
    let p ← p.withDate? (fullYear digits) (value month) (value day)
    match more with
    | .word "t" :: more => pure (p, more)
    | more => pure (p, more)
  | .sign '-' :: .word month :: .sign '-' :: .number y :: more => do
    let m ← nameIndex? monthNames month
    let p ← p.withDate? (fullYear y) (m + 1) (value digits)
    pure (p, more)
  | .sign '/' :: .number day :: .sign '/' :: .number y :: more => do
    let p ← if digits.length ≥ 4 then p.withDate? (value digits) (value day) (value y)
      else p.withDate? (fullYear y) (value digits) (value day)
    pure (p, more)
  | .sign '/' :: .number day :: more => do
    let p ← p.withDate? year (value digits) (value day)
    pure (p, more)
  | .sign ':' :: more => p.readClock digits more
  | .word word :: more =>
    match nameIndex? monthNames word with
    | some m =>
      match more with
      | .number y :: .sign ':' :: _ => do
        let p ← p.withDate? year (m + 1) (value digits)
        let _ := y
        pure (p, more)
      | .number y :: after => do
        let p ← p.withDate? (fullYear y) (m + 1) (value digits)
        pure (p, after)
      | more => do
        let p ← p.withDate? year (m + 1) (value digits)
        pure (p, more)
    | none =>
      match halfHour? (value digits) word with
      | some hour => do
        let p ← p.withClock? hour 0 0 ""
        pure (p, more)
      | none =>
        match more with
        | .word "ago" :: more => do
          let p ← p.add? (-(value digits)) word
          pure (p, more)
        | more =>
          match p.add? (value digits) word with
          | some p => some (p, more)
          | none =>
            match nameIndex? weekdayNames word with
            | some w => some ({ p with weekday := some (w, value digits) }, more)
            | none => none
  | rest =>
    if p.date.isSome && p.clock.isSome && digits.length = 4 then
      match p.date with
      | some (_, m, d) => some ({ p with date := some (value digits, m, d) }, rest)
      | none => none
    else if 4 < digits.length then do
      let n := value digits
      let p ← p.withDate? (if digits.length ≤ 6 then fullYear (toString (n / 10000)) else n / 10000)
        (n / 100 % 100) (n % 100)
      pure (p, rest)
    else do
      let n := value digits
      let p ← if digits.length < 3 then p.withClock? n 0 0 "" else p.withClock? (n / 100) (n % 100) 0 ""
      pure (p, rest)

/-- Read one item of a phrase that begins with a word. -/
def readWord (p : TimePhrase) (word : String) (rest : List TimeWord) (year : Int) :
    Option (TimePhrase × List TimeWord) :=
  match word, rest with
  | "now", _ | "today", _ => some ({ p with isRelative := true }, rest)
  | "tomorrow", _ => some ({ p with days := p.days + 1, isRelative := true }, rest)
  | "yesterday", _ => some ({ p with days := p.days - 1, isRelative := true }, rest)
  | "t", _ => some (p, rest)
  | "ago", _ =>
    some ({ p with months := -p.months, days := -p.days, nanoseconds := -p.nanoseconds }, rest)
  | word, rest =>
    match ordinals.lookup word, rest with
    | some n, .word unit :: more =>
      match p.add? n unit, nameIndex? weekdayNames unit, more with
      | some _, _, .word "ago" :: more => do
        let p ← p.add? (-n) unit
        pure (p, more)
      | some p, _, _ => some (p, more)
      | none, some w, _ => some ({ p with weekday := some (w, n) }, more)
      | none, none, _ => none
    | _, _ =>
      match nameIndex? monthNames word, rest with
      | some m, .number day :: .number y :: .sign ':' :: more => do
        let p ← p.withDate? year (m + 1) (value day)
        pure (p, .number y :: .sign ':' :: more)
      | some m, .number day :: .number y :: more => do
        let p ← p.withDate? (fullYear y) (m + 1) (value day)
        pure (p, more)
      | some m, .number day :: more => do
        let p ← p.withDate? year (m + 1) (value day)
        pure (p, more)
      | some _, _ => none
      | none, _ =>
        match nameIndex? weekdayNames word, zoneNames.lookup word with
        | some w, _ => if p.weekday.isSome then none else some ({ p with weekday := some (w, 0) }, rest)
        | none, some hours =>
          if p.zone.isSome then none
          else some ({ p with zone := some (hours * 3600), isRelative := true }, rest)
        | none, none =>
          match rest with
          | .word "ago" :: more => do
            let p ← p.add? (-1) word
            pure (p, more)
          | rest => do
            let p ← p.add? 1 word
            pure (p, rest)

/-- Read the items of a phrase.  The number bounds how many there are. -/
def readAll (year : Int) : Nat → TimePhrase → List TimeWord → Option TimePhrase
  | 0, _, _ => none
  | _ + 1, p, [] => some p
  | fuel + 1, p, .number digits :: rest => do
    let (p, rest) ← p.readNumber digits rest year
    readAll year fuel p rest
  | fuel + 1, p, .word word :: rest => do
    let (p, rest) ← p.readWord word rest year
    readAll year fuel p rest
  | fuel + 1, p, .sign c :: .number digits :: .word unit :: rest => do
    if !"+-".toList.contains c then none
    let n := if c == '-' then -value digits else value digits
    match rest with
    | .word "ago" :: rest => do
      let p ← p.add? (-n) unit
      readAll year fuel p rest
    | rest => do
      let p ← p.add? n unit
      readAll year fuel p rest
  | _, _, _ => none

/-- The point in time that is meant, given that of the present. -/
def resolve (p : TimePhrase) (now : Instant) : Instant :=
  let here := Moment.of now
  let (year, month, day) := p.date.getD (here.day.year, here.day.month, here.day.day)
  let clock := match p.clock with
    | some clock => clock
    | none =>
      if p.date.isSome || p.weekday.isSome then 0 else here.second * nanosPerSecond + here.nanosecond
  let first := dayNumber year (month + p.months) day
  let number := match p.weekday with
    | some (w, ordinal) =>
      if p.date.isSome then first
      else
        let ahead := (w - (first + 4)) % 7
        let skipped := if 0 < ordinal && ahead != 0 then ordinal - 1 else ordinal
        first + ahead + 7 * skipped
    | none => first
  (number + p.days) * 86400 * nanosPerSecond + clock + p.nanoseconds - p.zone.getD 0 * nanosPerSecond

end TimePhrase

/-- The point in time that a phrase names, given that of the present. -/
def readTime? (phrase : String) (now : Instant) : Option Instant :=
  let cs := phrase.toList.dropWhile isSpace
  match cs with
  | '@' :: rest =>
    let (negative, digits) := match rest with
      | '-' :: digits => (true, digits)
      | '+' :: digits => (false, digits)
      | digits => (false, digits)
    let whole := digits.takeWhile Char.isDigit
    let fraction := match digits.drop whole.length with
      | '.' :: more | ',' :: more => more
      | _ => []
    let isWhole := fraction.all Char.isDigit &&
      (digits.length = whole.length || digits.length = whole.length + 1 + fraction.length)
    if whole.isEmpty || !isWhole then none
    else
      let n : Int := ((String.ofList whole).toNat?.getD 0 : Nat)
      let part : Int := ((String.ofList ((fraction ++ List.replicate 9 '0').take 9)).toNat?.getD 0 : Nat)
      let total := n * nanosPerSecond + part
      some (if negative then -total else total)
  | cs =>
    (TimePhrase.readAll (Moment.of now).day.year (4 * cs.length + 4) .empty
      (timeWords (cs.length + 1) cs)).map fun p =>
        if cs.isEmpty then
          let here := Moment.of now
          here.number * 86400 * nanosPerSecond
        else p.resolve now

end Conformance.Shell
