import Conformance.Shell.Utility.Lines

/-!
# Programs for numbers

Programs that count, take numbers apart into primes, and write sizes in units that suit them.
-/

namespace Conformance.Shell

open Effect

/-! ## Counting -/

/-- A decimal number as it is written: its value in units of its last place, how many places it has, and how
wide it is where all numbers are to be equally wide.  A number without a value has no end. -/
structure Places where
  value : Int
  places : Nat
  width : Nat
  isEndless : Bool

/-- Read a decimal number, or one in base sixteen. -/
def Places.read? (text : String) : Option Places :=
  let cs := text.toList.dropWhile isSpace
  let (sign, negative, cs) := match cs with
    | '-' :: rest => (1, true, rest)
    | '+' :: rest => (0, false, rest)
    | rest => (0, false, rest)
  let signed (n : Nat) : Int := if negative then -(n : Int) else n
  let low := String.ofList (cs.map Char.toLower)
  if low == "inf" || low == "infinity" then some ⟨signed 1, 0, 0, true⟩
  else if low.startsWith "0x" && low.length > 2 && (cs.drop 2).all fun c => (digitOf? 16 c).isSome then
    some ⟨signed (takeNumber 16 (cs.drop 2)).1, 0, text.length, false⟩
  else
    let whole := cs.takeWhile Char.isDigit
    let rest := cs.drop whole.length
    let hasPoint := rest.head? == some '.'
    let fraction := match rest with
      | '.' :: more => more.takeWhile Char.isDigit
      | _ => []
    let rest := match rest with
      | '.' :: more => more.drop fraction.length
      | rest => rest
    let (power, after) := Fraction.takePower ['e', 'E'] rest
    if (whole.isEmpty && fraction.isEmpty) || !after.isEmpty || 5000 < power.natAbs then none
    else
      let (n, _) := takeNumber 10 (whole ++ fraction)
      let places := fraction.length
      let shown := ((places : Int) - power).toNat
      let scale := (power - places + shown).toNat
      let width : Int := sign + (max 1 whole.length : Nat) + (if places = 0 then 0 else places + 1 : Nat)
      let width : Int :=
        if power < 0 then
          width + (if hasPoint && places != 0 then 0 else 1) + power.natAbs
        else
          let width := if places != 0 && shown = 0 then width - 1 else width
          width + (power.toNat - min places power.toNat : Nat)
      some ⟨signed (n * Decimal.tenTo scale), shown, width.toNat, false⟩

/-- The value of a decimal number with at least as many places. -/
def Places.scaled (p : Places) (places : Nat) : Int :=
  p.value * (Decimal.tenTo (places - p.places) : Nat)

/-- A number of units written with places, and zeros in front up to a width. -/
def writePlaces (places width : Nat) (negative : Bool) (n : Nat) : String :=
  let body := withPoint false places (Decimal.digits n)
  let sign := if negative then "-" else ""
  sign ++ "".pushn '0' (width - sign.length - body.length) ++ body

/-- The numbers from a first one to a last one by steps; the number bounds how many there are. -/
def countUp : Nat → Int → Int → Int → List Int
  | 0, _, _, _ => []
  | fuel + 1, first, step, last =>
    if (0 < step && last < first) || (step < 0 && first < last) then []
    else first :: countUp fuel (first + step) step last

/-- How numbers are counted out: what stands between them, the pattern for each, whether all are equally
wide, and the operands. -/
structure CountPlan where
  between : String
  form : Option String
  equal : Bool
  operands : List String

namespace CountPlan

/-- What looks like an option is a number below zero if a digit or a point follows the dash. -/
def readFrom : Nat → List String → Except String CountPlan
  | 0, _ => .ok ⟨"\n", none, false, []⟩
  | fuel + 1, arguments =>
    match arguments with
    | [] => .ok ⟨"\n", none, false, []⟩
    | argument :: rest =>
      match argument.toList with
      | ['-', '-'] => .ok ⟨"\n", none, false, rest⟩
      | '-' :: c :: _ =>
        if c.isDigit || c == '.' || ["-inf", "-infinity"].contains argument then
          .ok ⟨"\n", none, false, arguments⟩
        else do
          let g ← Given.read "+f:s:w" [("equal-width", 'w'), ("format", 'f'), ("separator", 's')]
            (if argument.toList.getLast? == some 'w' || argument.contains '=' || (2 < argument.length &&
              c != '-' && c != 'w') then [argument] else argument :: rest.take 1)
          let taken := if g.operands.isEmpty && !g.has 'w' && !(argument.contains '=' ||
            (2 < argument.length && c != '-')) then rest.drop 1 else rest
          let more ← readFrom fuel taken
          pure { more with
            between := if g.has 's' && more.between == "\n" then (g.get? 's').getD "" else more.between
            form := more.form.or (g.get? 'f'), equal := more.equal || g.has 'w' }
      | _ => .ok ⟨"\n", none, false, arguments⟩

/-- Read how numbers are counted out. -/
def read (arguments : List String) : Except String CountPlan :=
  readFrom (arguments.length + 1) arguments

end CountPlan

/-- A pattern in which one number is put: what stands around it, and how it is written. -/
structure NumberForm where
  front : String
  field : Field
  letter : Char
  ending : String

/-- Text up to a sign that is not doubled, with doubled signs made single, and what follows. -/
def takePlain : List Char → List Char × Option (List Char)
  | '%' :: '%' :: rest =>
    let (text, after) := takePlain rest
    ('%' :: text, after)
  | '%' :: rest => ([], some rest)
  | c :: rest =>
    let (text, after) := takePlain rest
    (c :: text, after)
  | [] => ([], none)

/-- Read a pattern in which one number is put. -/
def NumberForm.read (form : String) : Except String NumberForm :=
  match takePlain form.toList with
  | (_, none) => .error s!"format {quoted form} has no % directive"
  | (front, some rest) =>
    let flags := rest.takeWhile "'-+ #0".toList.contains
    let field := (flags.filter (· != '\'')).foldl Field.flag Field.plain
    let (width, after) := takeNumber 10 (rest.drop flags.length)
    let (precision, after) := match after with
      | '.' :: more =>
        let (n, after) := takeNumber 10 more
        (some n, after)
      | after => (none, after)
    let after := match after with
      | 'L' :: more => more
      | after => after
    match after with
    | [] => .error s!"format {quoted form} ends in %"
    | letter :: more =>
      if !"efgaEFGA".toList.contains letter then
        .error s!"format {quoted form} has unknown %{letter} directive"
      else
        match takePlain more with
        | (_, some _) => .error s!"format {quoted form} has too many % directives"
        | (ending, none) =>
          .ok ⟨String.ofList front, { field with width := width, precision := precision }, letter,
            String.ofList ending⟩

/-- A fraction in a pattern. -/
def NumberForm.write (f : NumberForm) (negative : Bool) (num den : Nat) : String :=
  f.front ++ f.field.fraction 3 15 f.letter negative num den ++ f.ending

/-- How many numbers are counted out that would have no end. -/
def endlessNumbers : Nat := 100000

/-- Count. -/
def seqProgram (arguments : List String) : Effect Nat := do
  match CountPlan.read arguments with
  | .error message => misused message 1
  | .ok ⟨between, form, equal, operands⟩ =>
    match operands, operands[3]? with
    | [], _ => misused "missing operand" 1
    | _, some extra => misused ("extra operand " ++ quoted extra) 1
    | operands, none =>
      let bad := operands.find? fun text => (Places.read? text).isNone
      let numbers := operands.filterMap Places.read?
      let one : Places := ⟨1, 0, 1, false⟩
      let plan : Places × Places × Places := match numbers with
        | [last] => (one, one, last)
        | [first, last] => (first, one, last)
        | [first, step, last] => (first, step, last)
        | _ => (one, one, one)
      let (first, step, last) := plan
      match form.mapM NumberForm.read, bad with
      | .error message, _ => failed message 1
      | .ok _, some text =>
        if text.toList.map Char.toLower == "nan".toList then
          misused ("invalid " ++ quoted "not-a-number" ++ " argument: " ++ quoted text) 1
        else misused ("invalid floating point argument: " ++ quoted text) 1
      | .ok form, none =>
        if form.isSome && equal then
          misused "format string may not be specified when printing equal width strings" 1
        else if step.value = 0 then
          misused ("invalid Zero increment value: " ++ quoted (operands[1]?.getD "")) 1
        else
          let places := max first.places step.places
          let inner := max places last.places
          let stop : Int := if last.isEndless then
              first.scaled inner + step.scaled inner * endlessNumbers * (if last.value < 0 then -1 else 1)
            else last.scaled inner
          let values := countUp 1000000 (first.scaled inner) (step.scaled inner) stop
          let shift := Decimal.tenTo (inner - places)
          let isNegativeZero := (operands.length > 1) && ((operands.headD "").startsWith "-") && first.value = 0
          let widthOf (p : Places) : Nat :=
            p.width + (places - p.places) + (if p.places = 0 && places != 0 then 1 else 0)
          let lastWidth := if last.places ≤ places then widthOf last
            else last.width - (last.places - places) - (if places = 0 then 1 else 0)
          let width := if equal then max (widthOf first) lastWidth else 0
          let shown := values.zipIdx.map fun (n, k) =>
            let negative := n < 0 || (isNegativeZero && k = 0)
            match form with
            | some f => f.write negative n.natAbs (Decimal.tenTo inner)
            | none => writePlaces places width negative (n.natAbs / shift)
          if !shown.isEmpty then say (between.intercalate shown ++ "\n")
          pure (if last.isEndless then 141 else 0)

/-! ## Primes -/

/-- A power of a number, without multiples of another one. -/
def powerModulo (modulus : Nat) : Nat → Nat → Nat → Nat
  | 0, _, _ => 1 % modulus
  | fuel + 1, base, exponent =>
    if exponent = 0 then 1 % modulus
    else
      let half := powerModulo modulus fuel (base * base % modulus) (exponent / 2)
      if exponent % 2 = 1 then half * base % modulus else half

/-- Whether a number above one passes the test for primes that a base makes. -/
def passesBase (n base : Nat) : Bool :=
  let twos := (List.range 64).foldl (fun k _ => if (n - 1) / (1 <<< k) % 2 = 0 then k + 1 else k) 0
  let odd := (n - 1) / (1 <<< twos)
  let x := powerModulo n 4096 (base % n) odd
  let rec squares : Nat → Nat → Bool
    | 0, _ => false
    | k + 1, x => x = n - 1 || squares k (x * x % n)
  base % n = 0 || x = 1 || squares twos x

/-- Whether a number is a prime. -/
def isPrimeNumber (n : Nat) : Bool :=
  1 < n && ([2, 3, 5, 7, 11, 13, 17, 19, 23, 29, 31, 37] : List Nat).all fun base =>
    n = base || (n % base != 0 && passesBase n base)

/-- The primes of a number from a divisor on.  The number bounds how many divisors are tried. -/
def primesFrom : Nat → Nat → Nat → List Nat
  | 0, _, n => [n]
  | fuel + 1, d, n =>
    if n ≤ 1 then []
    else if n % d = 0 then d :: (if isPrimeNumber (n / d) then [n / d] else primesFrom fuel d (n / d))
    else if n < d * d then [n]
    else primesFrom fuel (if d = 2 then 3 else d + 2) n

/-- The primes of a number in their order. -/
def primesOf (n : Nat) : List Nat :=
  if n < 2 then [] else if isPrimeNumber n then [n] else primesFrom 20000000 2 n

/-- Take numbers apart into primes. -/
def factorProgram (arguments : List String) : Effect Nat :=
  withGiven "h" [("exponents", 'h')] 1 arguments fun g => do
    let words ← if g.operands.isEmpty then do
        pure (((← readAll 0).toList.splitOnP isSpace).filter (!·.isEmpty) |>.map String.ofList)
      else pure g.operands
    forOperandsIn words fun word => do
      let cs := word.toList.dropWhile isSpace
      let cs := if cs.head? == some '+' then cs.drop 1 else cs
      if cs.isEmpty || !cs.all Char.isDigit then
        tell (quoted word ++ " is not a valid positive integer")
        pure false
      else
        let n := (takeNumber 10 cs).1
        let primes := primesOf n
        let shown := if g.has 'h' then
            primes.eraseDups.map fun p =>
              let k := primes.count p
              if k = 1 then toString p else s!"{p}^{k}"
          else primes.map toString
        say (s!"{n}:" ++ String.join (shown.map (" " ++ ·)) ++ "\n")
        pure true
where
  /-- Do something for all words; the answer is the status. -/
  forOperandsIn (words : List String) (body : String → Effect Bool) : Effect Nat := do
    let results ← words.mapM body
    pure (if results.all id then 0 else 1)

/-! ## Sizes in units -/

/-- How sizes are written: with units by thousands, or by powers of two. -/
inductive SizeScale
  | none
  | auto
  | thousands
  | binary
  | binaryMarked
  deriving Repr, DecidableEq

/-- The scale that a word names. -/
def SizeScale.named? : String → Option SizeScale
  | "none" => some .none
  | "auto" => some .auto
  | "si" => some .thousands
  | "iec" => some .binary
  | "iec-i" => some .binaryMarked
  | _ => Option.none

/-- How a fraction is made whole. -/
inductive RoundWay
  | up
  | down
  | fromZero
  | towardsZero
  | nearest
  deriving Repr, DecidableEq

/-- The way of rounding that a word names. -/
def RoundWay.named? : String → Option RoundWay
  | "up" => some .up
  | "down" => some .down
  | "from-zero" => some .fromZero
  | "towards-zero" => some .towardsZero
  | "nearest" => some .nearest
  | _ => none

/-- A fraction made whole. -/
def RoundWay.apply (way : RoundWay) (negative : Bool) (num den : Nat) : Nat :=
  let above := (num + den - 1) / den
  match way with
  | .up => if negative then num / den else above
  | .down => if negative then above else num / den
  | .fromZero => above
  | .towardsZero => num / den
  | .nearest => (2 * num + den) / (2 * den)

/-- The letters of units. -/
def unitLetters : List Char := "KMGTPEZYRQ".toList

/-- A size as it is read: a fraction with its sign, and how many decimal places it was written with. -/
structure SizeValue where
  negative : Bool
  num : Nat
  den : Nat
  places : Nat

/-- Read a size. -/
def SizeValue.read (scale : SizeScale) (suffix : String) (word : String) : Except String SizeValue :=
  let text := if !suffix.isEmpty && word.endsWith suffix && word != suffix then
    (word.dropEnd suffix.length).toString else word
  let (negative, cs) := match text.toList with
    | '-' :: rest => (true, rest)
    | rest => (false, rest)
  let whole := cs.takeWhile Char.isDigit
  let rest := cs.drop whole.length
  let fraction := match rest with
    | '.' :: more => more.takeWhile Char.isDigit
    | _ => []
  let rest := match rest with
    | '.' :: more => more.drop fraction.length
    | rest => rest
  if whole.isEmpty && fraction.isEmpty then .error ("invalid number: " ++ quoted word)
  else
    let (n, _) := takeNumber 10 (whole ++ fraction)
    let value (factor : Nat) : SizeValue :=
      ⟨negative, n * factor, Decimal.tenTo fraction.length, if factor = 1 then fraction.length else 0⟩
    let power (base k : Nat) : Nat := (List.replicate k base).foldl (· * ·) 1
    match rest with
    | [] => .ok (value 1)
    | c :: more =>
      match unitLetters.idxOf? (if c == 'k' then 'K' else c), scale with
      | none, _ => .error ("invalid suffix in input: " ++ quoted word)
      | some _, .none => .error (s!"rejecting suffix in input: {quoted word} (consider using --from)")
      | some k, scale =>
        let marked := more.head? == some 'i'
        let base := match scale with
          | .thousands => 1000
          | .auto => if marked then 1024 else 1000
          | _ => 1024
        let after := match scale with
          | .auto | .binaryMarked => if marked then more.drop 1 else more
          | _ => more
        if scale == .binaryMarked && !marked then
          .error (s!"missing 'i' suffix in input: {quoted word} (e.g Ki/Mi/Gi)")
        else if !after.isEmpty then
          .error (s!"invalid suffix in input {quoted word}: {quoted (String.ofList after)}")
        else .ok (value (power base (k + 1)))

/-- A size with a unit that suits it. -/
def writeSize (scale : SizeScale) (way : RoundWay) (places : Option Nat) (v : SizeValue) : String :=
  let sign (n : Nat) : String := if v.negative && n != 0 then "-" else ""
  match scale with
  | .none | .auto =>
    let places := places.getD v.places
    let n := way.apply v.negative (v.num * Decimal.tenTo places) v.den
    sign n ++ withPoint false places (Decimal.digits n)
  | scale =>
    let base := if scale == .thousands then 1000 else 1024
    let power := (List.range 10).foldl (fun (k, den) _ =>
      if base * den ≤ v.num then (k + 1, den * base) else (k, den)) (0, v.den)
    let (k, den) := power
    let tenths (hasUnit : Bool) (den : Nat) : Nat × Nat :=
      match places with
      | some p => (p, way.apply v.negative (v.num * Decimal.tenTo p) den)
      | none =>
        if hasUnit && v.num < 10 * den then (1, way.apply v.negative (v.num * 10) den)
        else (0, way.apply v.negative v.num den)
    let (p, n) := tenths (k != 0) den
    let isFull := base * Decimal.tenTo p ≤ n && k < 10
    let (k, p, n) := if isFull then
        let (p, n) := tenths true (den * base)
        (k + 1, p, n)
      else if p = 1 && places.isNone && 100 ≤ n then (k, 0, way.apply v.negative v.num den)
      else (k, p, n)
    let letter := if k = 0 then "" else
      String.singleton ((unitLetters[k - 1]?).getD 'Q') ++ if scale == .binaryMarked then "i" else ""
    sign n ++ withPoint false p (Decimal.digits n) ++ letter

/-- Write sizes in units that suit them. -/
def numfmtProgram (arguments : List String) : Effect Nat :=
  withGiven "d:zφ:τ:ρ:σ:π:ψ:η::ι:γλ:μ:ν:δ" [("from", 'φ'), ("to", 'τ'), ("round", 'ρ'), ("suffix", 'σ'),
      ("padding", 'π'), ("format", 'ψ'), ("header", 'η'), ("invalid", 'ι'), ("grouping", 'γ'), ("field", 'λ'),
      ("from-unit", 'μ'), ("to-unit", 'ν'), ("delimiter", 'd'), ("debug", 'δ'), ("zero-terminated", 'z')] 1
    arguments fun g => do
    let fromWords := [["none"], ["auto"], ["si"], ["iec"], ["iec-i"]]
    let intoWords := [["none"], ["si"], ["iec"], ["iec-i"]]
    let roundWords := [["up"], ["down"], ["from-zero"], ["towards-zero"], ["nearest"]]
    let word (letter : Char) (usual : String) (words : List (List String)) : Except String String :=
      match fullWord? words ((g.get? letter).getD usual) with
      | some full => .ok full
      | none => .error ((g.get? letter).getD "")
    match word 'φ' "none" fromWords, word 'τ' "none" intoWords, word 'ρ' "from-zero" roundWords with
    | .error bad, _, _ => misworded bad "--from" fromWords 1
    | _, .error bad, _ => misworded bad "--to" intoWords 1
    | _, _, .error bad => misworded bad "--round" roundWords 1
    | .ok source, .ok into, .ok round =>
      let source := (SizeScale.named? source).getD .none
      let into := (SizeScale.named? into).getD .none
      let way := (RoundWay.named? round).getD .fromZero
      let suffix := (g.get? 'σ').getD ""
      let form := (g.get? 'ψ').bind fun text =>
        let cs := text.toList
        let front := cs.takeWhile (· != '%')
        let flags := (cs.drop (front.length + 1)).takeWhile "'-0".toList.contains
        let rest := cs.drop (front.length + 1 + flags.length)
        let (width, after) := takeNumber 10 rest
        let (places, after) := match after with
          | '.' :: more =>
            let (n, after) := takeNumber 10 more
            (some n, after)
          | after => (none, after)
        match after with
        | 'f' :: more => some (String.ofList front, flags, width, places, String.ofList more)
        | _ => none
      let unit (letter : Char) : Nat := ((g.get? letter).bind readSize?).getD 1
      let padding : Int := ((g.get? 'π').bind readWhole?).getD 0
      let pad (text : String) : String :=
        let gap := padding.natAbs - text.length
        if padding < 0 then text ++ "".pushn ' ' gap else "".pushn ' ' gap ++ text
      let convert (text : String) : Except String String := do
        let v ← SizeValue.read source suffix text
        let v := { v with num := v.num * unit 'μ', den := v.den * max 1 (unit 'ν') }
        let body := writeSize into way (form.bind fun (_, _, _, places, _) => places) v ++ suffix
        pure (match form with
          | some (front, flags, width, _, ending) =>
            let gap := width - body.length
            front ++ (if flags.contains '-' then body ++ "".pushn ' ' gap
              else if flags.contains '0' then "".pushn '0' gap ++ body else "".pushn ' ' gap ++ body) ++ ending
          | none => pad body)
      let fieldOf := ((g.get? 'λ').bind String.toNat?).getD 1
      let convertLine (line : String) : Except String String :=
        match (g.get? 'd').bind fun d => d.toList.head? with
        | some d =>
          let fields := (line.toList.splitOn d).map String.ofList
          match fields[fieldOf - 1]? with
          | some text => (convert text).map fun new =>
              (String.singleton d).intercalate (fields.set (fieldOf - 1) new)
          | none => .ok line
        | none =>
          let rec go : Nat → Nat → List Char → Except String (List Char)
            | 0, _, rest => .ok rest
            | fuel + 1, n, rest =>
              let blanks := rest.takeWhile isSpace
              let word := (rest.drop blanks.length).takeWhile (!isSpace ·)
              let after := rest.drop (blanks.length + word.length)
              if word.isEmpty then .ok rest
              else if n = fieldOf then
                (convert (String.ofList word)).map fun new =>
                  let kept := if padding = 0 && 1 < n && blanks.length > 1 then
                    "".pushn ' ' (blanks.length + word.length - new.length) |>.toList else blanks
                  kept ++ new.toList ++ after
              else (go fuel (n + 1) after).map fun more => blanks ++ word ++ more
          (go (line.length + 1) 1 line.toList).map String.ofList
      let mode := (g.get? 'ι').getD "abort"
      let ending := if g.has 'z' then "\x00" else "\n"
      let lines ← if g.operands.isEmpty then do
          pure ((partsBehind ending (← readAll 0)).map fun line =>
            if line.endsWith ending then (line.dropEnd 1).toString else line)
        else pure g.operands
      let titles := if g.has 'η' && g.operands.isEmpty then
        (((g.get? 'η').filter (!·.isEmpty)).bind String.toNat?).getD 1 else 0
      let (status, _) ← lines.zipIdx.foldlM (fun ((status, stopped) : Nat × Bool) (line, n) => do
        if stopped then pure (status, true)
        else if n < titles then
          say (line ++ ending)
          pure (status, false)
        else
          match convertLine line with
          | .ok text =>
            say (text ++ ending)
            pure (status, false)
          | .error message =>
            if mode != "ignore" then tell message
            if mode == "abort" then pure (2, true)
            else
              say (line ++ ending)
              pure (if mode == "fail" then 2 else status, false)) (0, false)
      pure status

end Conformance.Shell
