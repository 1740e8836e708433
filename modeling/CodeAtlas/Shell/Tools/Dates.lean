import CodeAtlas.Shell.Tools.Lines

/-!
# Dates

Days of the calendar and seconds of the day, as they are written and read. Times are counted in
seconds from the first day of 1970, in the zone of Greenwich.

## Architecture

- **Layer A**: the calendar;
- **Layer B**: formats;
- **Layer C**: reading;
- **Layer D**: the tool.
-/

namespace CodeAtlas

namespace Shell

/-! ## Layer A: the calendar -/

/-- A time as it is shown. -/
structure CivilTime where
  year : Int
  /-- From one on. -/
  month : Nat
  /-- From one on. -/
  day : Nat
  hour : Nat := 0
  minute : Nat := 0
  second : Nat := 0
  deriving Repr, DecidableEq, Inhabited

/-- The number of days from the first day of 1970 to a day. Years are counted from March on, so that
the day that may be missing is the last. -/
def daysBefore (year : Int) (month : Nat) (day : Int) : Int :=
  let y := if month ≤ 2 then year - 1 else year
  let era := y.fdiv 400
  let yearOfEra := y - era * 400
  let monthFromMarch : Int := (month + 9) % 12
  let dayOfYear := (153 * monthFromMarch + 2) / 5 + day - 1
  era * 146097 + (yearOfEra * 365 + yearOfEra / 4 - yearOfEra / 100 + dayOfYear) - 719468

namespace CivilTime

/-- The time of a number of seconds. -/
def ofSeconds (t : Int) : CivilTime :=
  let days := t.fdiv 86400
  let rest := (t - days * 86400).toNat
  let z := days + 719468
  let era := z.fdiv 146097
  let dayOfEra := z - era * 146097
  let yearOfEra := (dayOfEra - dayOfEra / 1460 + dayOfEra / 36524 - dayOfEra / 146096) / 365
  let dayOfYear := dayOfEra - (365 * yearOfEra + yearOfEra / 4 - yearOfEra / 100)
  let monthFromMarch := (5 * dayOfYear + 2) / 153
  let month := (if monthFromMarch < 10 then monthFromMarch + 3 else monthFromMarch - 9).toNat
  { year := yearOfEra + era * 400 + if month ≤ 2 then 1 else 0
    month := month
    day := (dayOfYear - (153 * monthFromMarch + 2) / 5 + 1).toNat
    hour := rest / 3600, minute := rest / 60 % 60, second := rest % 60 }

/-- The number of days from the first day of 1970. -/
def dayNumber (t : CivilTime) : Int := daysBefore t.year t.month t.day

/-- The number of seconds of a time. -/
def toSeconds (t : CivilTime) : Int :=
  t.dayNumber * 86400 + t.hour * 3600 + t.minute * 60 + t.second

/-- The day of the week; Sunday is zero. -/
def weekday (t : CivilTime) : Nat := ((t.dayNumber + 4) % 7).toNat

/-- The day of the year, from one on. -/
def dayOfYear (t : CivilTime) : Nat := (t.dayNumber - daysBefore t.year 1 1 + 1).toNat

/-- The number of a week and the year it belongs to, where weeks begin on Monday and the first one
has four days of the year at least. -/
def isoWeek (t : CivilTime) : Int × Nat :=
  let monday := t.dayNumber - (((t.weekday + 6) % 7 : Nat) : Int)
  let thursday := CivilTime.ofSeconds ((monday + 3) * 86400)
  (thursday.year, (thursday.dayOfYear - 1) / 7 + 1)

/-- Whether a day and a time of day are there. -/
def isValid (t : CivilTime) : Bool :=
  1 ≤ t.month && t.month ≤ 12 && 1 ≤ t.day && t.hour < 24 && t.minute < 60 && t.second < 61
    && (CivilTime.ofSeconds (daysBefore t.year t.month t.day * 86400)).day == t.day

end CivilTime

/-- The days of the week. -/
def weekdayNames : List String :=
  ["Sunday", "Monday", "Tuesday", "Wednesday", "Thursday", "Friday", "Saturday"]

/-- The months. -/
def monthNames : List String :=
  ["January", "February", "March", "April", "May", "June", "July", "August", "September",
   "October", "November", "December"]

/-- The short form of a name. -/
def shortName (s : String) : String := String.ofList (s.toList.take 3)

/-! ## Layer B: formats -/

/-- A number with zeros or other signs in front. -/
def filledNumber (fill : Option Char) (width : Nat) (n : Int) : String :=
  let digits := toString n.natAbs
  let digits := match fill with
    | some f => String.ofList (List.replicate (width - digits.length) f) ++ digits
    | none => digits
  if n < 0 then "-" ++ digits else digits

/-- What a letter of a format stands for. `fill` is what is put in front of numbers, if the format
says so. -/
def dateField? (seconds : Int) (fill : Option (Option Char)) (width : Option Nat) :
    Char → Option String :=
  let t := CivilTime.ofSeconds seconds
  let number (usual : Char) (size : Nat) (n : Int) : String :=
    filledNumber (fill.getD (some usual)) (width.getD size) n
  let two (n : Nat) : String := number '0' 2 n
  let half := if t.hour % 12 == 0 then 12 else t.hour % 12
  let weekday := weekdayNames.getD t.weekday ""
  let month := monthNames.getD (t.month - 1) ""
  let plain (n : Nat) : String := filledNumber (some '0') 2 n
  let clock := plain t.hour ++ ":" ++ plain t.minute
  let seconds' := clock ++ ":" ++ plain t.second
  fun
  | 'Y' => some (number '0' 4 t.year)
  | 'C' => some (number '0' 2 (t.year.fdiv 100))
  | 'y' => some (number '0' 2 (t.year % 100))
  | 'm' => some (two t.month)
  | 'd' => some (two t.day)
  | 'e' => some (number ' ' 2 t.day)
  | 'H' => some (two t.hour)
  | 'k' => some (number ' ' 2 t.hour)
  | 'I' => some (two half)
  | 'l' => some (number ' ' 2 half)
  | 'M' => some (two t.minute)
  | 'S' => some (two t.second)
  | 'N' => some "000000000"
  | 'j' => some (number '0' 3 t.dayOfYear)
  | 'a' => some (shortName weekday)
  | 'A' => some weekday
  | 'b' => some (shortName month)
  | 'h' => some (shortName month)
  | 'B' => some month
  | 'p' => some (if t.hour < 12 then "AM" else "PM")
  | 'P' => some (if t.hour < 12 then "am" else "pm")
  | 'u' => some (toString (if t.weekday == 0 then 7 else t.weekday))
  | 'w' => some (toString t.weekday)
  | 'U' => some (two ((t.dayOfYear + 6 - t.weekday) / 7))
  | 'W' => some (two ((t.dayOfYear + 6 - (t.weekday + 6) % 7) / 7))
  | 'V' => some (two t.isoWeek.2)
  | 'G' => some (number '0' 4 t.isoWeek.1)
  | 'g' => some (number '0' 2 (t.isoWeek.1 % 100))
  | 'q' => some (toString ((t.month + 2) / 3))
  | 's' => some (toString seconds)
  | 'F' => some (filledNumber (some '0') 4 t.year ++ "-" ++ plain t.month ++ "-" ++ plain t.day)
  | 'T' => some seconds'
  | 'X' => some seconds'
  | 'R' => some clock
  | 'r' => some (plain half ++ ":" ++ plain t.minute ++ ":" ++ plain t.second
      ++ if t.hour < 12 then " AM" else " PM")
  | 'D' => some (plain t.month ++ "/" ++ plain t.day ++ "/" ++ plain (t.year % 100).toNat)
  | 'x' => some (plain t.month ++ "/" ++ plain t.day ++ "/" ++ plain (t.year % 100).toNat)
  | 'c' => some (shortName weekday ++ " " ++ shortName month ++ " "
      ++ filledNumber (some ' ') 2 t.day ++ " " ++ seconds' ++ " " ++ toString t.year)
  | 'Z' => some "UTC"
  | 'z' => some "+0000"
  | 'n' => some "\n"
  | 't' => some "\t"
  | '%' => some "%"
  | _ => none

/-- Fills a time into a format. -/
def dateText (seconds : Int) : Nat → List Char → String
  | 0, _ => ""
  | _ + 1, [] => ""
  | fuel + 1, '%' :: rest =>
    let flags := rest.takeWhile fun c => ['-', '_', '0', '^', '#', '+'].contains c
    let digits := (rest.drop flags.length).takeWhile Char.isDigit
    let fill := flags.foldl (fun f c => match c with
      | '-' => some none
      | '_' => some (some ' ')
      | '0' => some (some '0')
      | _ => f) none
    let width := if digits.isEmpty then none else some (valueIn 10 digits)
    match rest.drop (flags.length + digits.length) with
    | ':' :: 'z' :: left => "+00:00" ++ dateText seconds fuel left
    | c :: left =>
      match dateField? seconds fill width c with
      | some s => (if flags.contains '^' then s.toUpper else s) ++ dateText seconds fuel left
      | none => "%" ++ dateText seconds fuel rest
    | [] => "%" ++ dateText seconds fuel rest
  | fuel + 1, c :: rest => String.singleton c ++ dateText seconds fuel rest

/-! ## Layer C: reading -/

/-- A word of a date: a number with its sign, letters, or another sign. -/
inductive DateWord where
  | number (sign : Option Char) (digits : List Char)
  | letters (word : String)
  | sign (c : Char)
  deriving Repr, DecidableEq, Inhabited

/-- The words of a date. -/
def dateWords : Nat → List Char → List DateWord
  | 0, _ => []
  | _ + 1, [] => []
  | fuel + 1, c :: rest =>
    let digits (cs : List Char) : List Char := cs.takeWhile Char.isDigit
    if c == ' ' || c == '\t' || c == ',' then dateWords fuel rest
    else if c.isDigit then
      let ds := digits (c :: rest)
      .number none ds :: dateWords fuel ((c :: rest).drop ds.length)
    else if (c == '+' || c == '-') && !(digits rest).isEmpty then
      .number (some c) (digits rest) :: dateWords fuel (rest.drop (digits rest).length)
    else if c.isAlpha then
      let w := (c :: rest).takeWhile Char.isAlpha
      .letters (String.ofList w).toLower :: dateWords fuel ((c :: rest).drop w.length)
    else .sign c :: dateWords fuel rest

/-- What has been read of a date. -/
structure DateReading where
  day : Option (Int × Nat × Nat) := none
  time : Option (Nat × Nat × Nat) := none
  /-- Minutes east of Greenwich. -/
  zone : Int := 0
  months : Int := 0
  days : Int := 0
  seconds : Int := 0
  deriving Repr, Inhabited

/-- The month that a word names, from one on. -/
def monthOf? (word : String) : Option Nat :=
  (monthNames.findIdx? fun m => m.toLower == word || (shortName m).toLower == word).map (· + 1)

/-- A span of time: months, days and seconds. -/
def spanOf? (word : String) : Option (Int × Int × Int) :=
  let bare := if word.endsWith "s" then String.ofList word.toList.dropLast else word
  match bare with
  | "year" => some (12, 0, 0)
  | "month" => some (1, 0, 0)
  | "fortnight" => some (0, 14, 0)
  | "week" => some (0, 7, 0)
  | "day" => some (0, 1, 0)
  | "hour" => some (0, 0, 3600)
  | "minute" => some (0, 0, 60)
  | "min" => some (0, 0, 60)
  | "second" => some (0, 0, 1)
  | "sec" => some (0, 0, 1)
  | _ => none

/-- Adds a span a number of times. -/
def DateReading.add (r : DateReading) (n : Int) (span : Int × Int × Int) : DateReading :=
  { r with
    months := r.months + n * span.1, days := r.days + n * span.2.1
    seconds := r.seconds + n * span.2.2 }

/-- Reads the words of a date. -/
def readDate : Nat → List DateWord → DateReading → Option DateReading
  | 0, _, _ => none
  | _ + 1, [], r => some r
  | fuel + 1, words, r =>
    let value (ds : List Char) : Nat := valueIn 10 ds
    let ago (n : Int) (rest : List DateWord) : Int × List DateWord :=
      match rest with
      | .letters "ago" :: rest => (-n, rest)
      | _ => (n, rest)
    match words with
    | .number none h :: .sign ':' :: .number none m :: .sign ':' :: .number none s :: rest =>
      let rest := match rest with
        | .sign '.' :: .number none _ :: rest => rest
        | _ => rest
      readDate fuel rest { r with time := some (value h, value m, value s) }
    | .number none h :: .sign ':' :: .number none m :: rest =>
      readDate fuel rest { r with time := some (value h, value m, 0) }
    | .number (some sign) h :: .sign ':' :: .number none m :: rest =>
      let minutes : Int := value h * 60 + value m
      readDate fuel rest { r with zone := if sign == '-' then -minutes else minutes }
    | .number none y :: .number (some '-') m :: .number (some '-') d :: rest =>
      if y.length == 4 then readDate fuel rest { r with day := some (value y, value m, value d) }
      else none
    | .number none m :: .sign '/' :: .number none d :: .sign '/' :: .number none y :: rest =>
      readDate fuel rest { r with day := some (value y, value m, value d) }
    | .number none d :: .letters w :: .number none y :: rest =>
      match monthOf? w, spanOf? w with
      | some m, _ => readDate fuel rest { r with day := some (value y, m, value d) }
      | none, some span => readDate fuel (.number none y :: rest) (r.add (value d) span)
      | none, none => none
    | .letters w :: .number none d :: .number none y :: rest =>
      match monthOf? w with
      | some m => readDate fuel rest { r with day := some (value y, m, value d) }
      | none => none
    | .number sign n :: .letters w :: rest =>
      match spanOf? w with
      | some span =>
        let n : Int := if sign == some '-' then -(value n : Int) else value n
        let (n, rest) := ago n rest
        readDate fuel rest (r.add n span)
      | none =>
        if sign.isNone && n.length == 8 && w == "t" then
          readDate fuel (.letters w :: rest)
            { r with day := some (value (n.take 4), value ((n.drop 4).take 2), value (n.drop 6)) }
        else none
    | .number none n :: rest =>
      if n.length == 8 then
        readDate fuel rest
          { r with day := some (value (n.take 4), value ((n.drop 4).take 2), value (n.drop 6)) }
      else none
    | .number (some sign) n :: rest =>
      if n.length == 4 || n.length == 2 then
        let minutes : Int := if n.length == 2 then value n * 60
          else value (n.take 2) * 60 + value (n.drop 2)
        readDate fuel rest { r with zone := if sign == '-' then -minutes else minutes }
      else none
    | .letters w :: rest =>
      if ["utc", "gmt", "z", "t", "now", "today", "at"].contains w then readDate fuel rest r
      else if w == "tomorrow" then readDate fuel rest (r.add 1 (0, 1, 0))
      else if w == "yesterday" then readDate fuel rest (r.add (-1) (0, 1, 0))
      else if w == "noon" then readDate fuel rest { r with time := some (12, 0, 0) }
      else if w == "midnight" then readDate fuel rest { r with time := some (0, 0, 0) }
      else if w == "next" || w == "last" then
        match rest with
        | .letters u :: rest =>
          match spanOf? u with
          | some span => readDate fuel rest (r.add (if w == "next" then 1 else -1) span)
          | none => none
        | _ => none
      else if weekdayNames.any fun n => n.toLower == w || (shortName n).toLower == w then
        readDate fuel rest r
      else none
    | _ => none

/-- The seconds of what was read, seen from a time. -/
def DateReading.seconds? (r : DateReading) (now : Int) : Option Int :=
  let present := CivilTime.ofSeconds now
  let (year, month, day) := r.day.getD (present.year, present.month, present.day)
  let (hour, minute, second) := r.time.getD
    (if r.day.isSome then (0, 0, 0) else (present.hour, present.minute, present.second))
  let given : CivilTime := ⟨year, month, day, hour, minute, second⟩
  if !given.isValid then none
  else
    let months := year * 12 + (month - 1 : Nat) + r.months
    let days := daysBefore (months.fdiv 12) ((months % 12).toNat + 1) (day + r.days)
    some (days * 86400 + hour * 3600 + minute * 60 + second + r.seconds - r.zone * 60)

/-- **The seconds that a text names**, seen from a time. -/
def dateOf? (now : Int) (text : String) : Option Int :=
  match text.toList with
  | '@' :: rest =>
    let (negative, digits) := Decimal.sign rest
    let whole := digits.takeWhile Char.isDigit
    let behind := digits.drop whole.length
    let clean := behind.isEmpty || (behind.head? == some '.' && (behind.drop 1).all Char.isDigit)
    if whole.isEmpty || !clean then none
    else some (if negative then -(valueIn 10 whole : Int) else valueIn 10 whole)
  | cs =>
    let start : DateReading := if cs.all (· == ' ') then { time := some (0, 0, 0) } else {}
    (readDate (cs.length + 1) (dateWords (cs.length + 1) cs) start).bind (·.seconds? now)

/-! ## Layer D: the tool -/

/-- Prints a time. -/
def dateTool (c : ToolCall) : ToolResult :=
  let table : OptionTable :=
    { plain := "uRIJK", valued := "drs+"
      long := [("utc", 'u'), ("universal", 'u'), ("date", 'd'), ("reference", 'r'),
        ("rfc-email", 'R'), ("rfc-2822", 'R'), ("rfc-3339", '+'), ("set", 's')] }
  let args := c.args.map fun a =>
    if a == "--iso-8601" || a == "--iso-8601=date" || a == "-Idate" then "-I"
    else if a == "-Iseconds" || a == "--iso-8601=seconds" then "-J"
    else if a == "-Iminutes" || a == "--iso-8601=minutes" then "-K" else a
  withOptions { c with args := args } 1 table fun g =>
    let moment : Except String Int := match g.value? 'd', g.value? 'r' with
      | some s, _ =>
        match dateOf? c.clock s with
        | some t => .ok t
        | none => .error ("invalid date '" ++ s ++ "'")
      | none, some f =>
        if c.files.has f then .ok (c.clock : Int)
        else .error (f ++ ": No such file or directory")
      | none, none => .ok (c.clock : Int)
    let usual := "%a %b %e %H:%M:%S UTC %Y"
    let format := if g.has 'R' then "%a, %d %b %Y %H:%M:%S +0000"
      else if g.has 'I' then "%Y-%m-%d"
      else if g.has 'J' then "%Y-%m-%dT%H:%M:%S+00:00"
      else if g.has 'K' then "%Y-%m-%dT%H:%M+00:00"
      else match g.value? '+' with
        | some "date" => "%Y-%m-%d"
        | some _ => "%Y-%m-%d %H:%M:%S+00:00"
        | none => usual
    match g.operands, moment with
    | _ :: extra :: _, _ => usage c 1 ("extra operand '" ++ extra ++ "'")
    | [f], .ok t =>
      if f.startsWith "+" then
        let cs := f.toList.drop 1
        .printing (dateText t (2 * cs.length + 1) cs ++ "\n")
      else .failing 1 (c.shown ++ ": invalid date '" ++ f ++ "'")
    | [], .ok t => .printing (dateText t (2 * format.length + 1) format.toList ++ "\n")
    | _, .error why => .failing 1 (c.shown ++ ": " ++ why)

end Shell

end CodeAtlas
