import ReportExport.Sql.Function.Scalar

/-!
# Date and time functions

A moment is worked on in up to three forms at once: a Julian day number in
milliseconds, a civil date, and a time of day whose seconds are a double.
Each form is marked as holding or not, and a form that does not hold is
computed from one that does when it is needed. A civil date may lie past the
end of its month (`2023-02-31`): its Julian day runs into the next month,
and the days it runs over are remembered for the `floor` modifier.

The first argument gives the moment. Text is read as a date `YYYY-MM-DD`,
optionally followed by blanks or `T` and a time; or as a time
`HH:MM[:SS[.SSS]]` alone, on 2000-01-01; either may end in a zone `±HH:MM`
or `Z`. Text may also be `now`, or a number. A number, whether given as a
number or as text, stays raw until read as a Julian day (the default), or as
seconds since 1970 by `unixepoch` or `auto`.

The modifiers then change the moment in order:
* `±N days` and the other units; months and years move the civil date;
* `±HH:MM[:SS]` and `±YYYY-MM-DD[ HH:MM]`;
* `start of day`, `start of month` and `start of year`;
* `weekday N`, `ceiling`, `floor` and `subsec`;
* `utc` and `localtime`, which keep the moment, the zone being UTC.

Text that cannot be read gives NULL, and so does a modifier that is not one
of these or a moment outside the years 4713 BC to 9999.
-/

namespace ReportExport.Sql

open Text

/-- The Julian day of 1970-01-01 in milliseconds. -/
def unixEpochMillis : Int := 210866760000000

/-- Whether a Julian day in milliseconds lies in the years the functions
handle. -/
def validJulianMillis (jd : Int) : Bool := 0 ≤ jd && jd ≤ 464269060799999

/-- The Julian day in milliseconds of midnight at the start of a civil date.
A day past the end of its month runs into the next month. -/
def julianOf (y m d : Int) : Int :=
  let (y, m) := if m ≤ 2 then (y - 1, m + 12) else (y, m)
  let a := Int.tdiv y 100
  let b := 2 - a + Int.tdiv a 4
  let x1 := Int.tdiv (36525 * (y + 4716)) 100
  let x2 := Int.tdiv (306001 * (m + 1)) 10000
  -- (x1 + x2 + d + b - 1524.5) days
  (x1 + x2 + d + b - 1525) * 86400000 + 43200000

/-- The civil date of a Julian day in milliseconds. -/
def civilOf (jd : Int) : Int × Int × Int :=
  let z := Int.tdiv (jd + 43200000) 86400000
  let a := Int.tdiv (z * 100 - 186721625) 3652425
  let a := z + 1 + a - Int.tdiv a 4
  let b := a + 1524
  let c := Int.tdiv (b * 100 - 12210) 36525
  let d := Int.tdiv (36525 * (c % 32768)) 100
  let e := Int.tdiv ((b - d) * 10000) 306001
  let x1 := Int.tdiv (306001 * e) 10000
  let day := b - d - x1
  let month := if e < 14 then e - 1 else e - 13
  let year := if month > 2 then c - 4716 else c - 4715
  (year, month, day)

/-- A moment being computed, with the forms of it that hold. -/
structure DateTime where
  /-- the Julian day number in milliseconds -/
  jd : Int := 0
  year : Int := 0
  month : Int := 0
  day : Int := 0
  hour : Int := 0
  minute : Int := 0
  /-- the seconds with their fraction; the number itself while `raw` -/
  second : Float := 0.0
  /-- the zone offset in minutes, until it is folded into the Julian day -/
  zone : Int := 0
  /-- the days the civil date lies past the end of its month -/
  pastMonthEnd : Int := 0
  hasJd : Bool := false
  hasDate : Bool := false
  hasTime : Bool := false
  /-- whether the moment is a number not yet read -/
  raw : Bool := false
  failed : Bool := false
  /-- whether outputs show milliseconds -/
  subsecond : Bool := false
  isUtc : Bool := false
  isLocal : Bool := false
  deriving Inhabited

namespace DateTime

/-- The moment after an error: nothing holds. -/
def failure : DateTime := { failed := true }

/-- Forgets the civil date, the time of day and the zone. -/
def clearParts (p : DateTime) : DateTime := { p with hasDate := false, hasTime := false, zone := 0 }

/-- Makes the Julian day hold: from the civil date (2000-01-01 when there is
none) and the time of day, less the zone, which is then folded in. -/
def computeJd (p : DateTime) : DateTime :=
  if p.hasJd then p
  else
    let (y, m, d) := if p.hasDate then (p.year, p.month, p.day) else (2000, 1, 1)
    if y < -4713 || y > 9999 || p.raw then failure
    else
      let p := { p with jd := julianOf y m d, hasJd := true }
      if p.hasTime then
        let jd := p.jd + p.hour * 3600000 + p.minute * 60000 + realToInteger (p.second * 1000.0 + 0.5)
        if p.zone != 0 then
          { p with jd := jd - p.zone * 60000, hasDate := false, hasTime := false, zone := 0,
                   isUtc := true, isLocal := false }
        else { p with jd }
      else p

/-- Makes the civil date hold. -/
def computeDate (p : DateTime) : DateTime :=
  if p.hasDate then p
  else if !p.hasJd then { p with year := 2000, month := 1, day := 1, hasDate := true }
  else if !validJulianMillis p.jd then failure
  else
    let (y, m, d) := civilOf p.jd
    { p with year := y, month := m, day := d, hasDate := true }

/-- Makes the time of day hold. -/
def computeTime (p : DateTime) : DateTime :=
  if p.hasTime then p
  else
    let p := p.computeJd
    let dayMs := Int.tmod (p.jd + 43200000) 86400000
    let dayMin := Int.tdiv dayMs 60000
    { p with second := Float.ofInt (Int.tmod dayMs 60000) / 1000.0, minute := Int.tmod dayMin 60,
             hour := Int.tdiv dayMin 60, raw := false, hasTime := true }

/-- Makes the civil date and the time of day hold. -/
def computeAll (p : DateTime) : DateTime := p.computeDate.computeTime

/-- Notes the days the civil date lies past the end of its month. -/
def withMonthEnd (p : DateTime) : DateTime :=
  let past :=
    if p.day ≤ 28 then 0
    else if [1, 3, 5, 7, 8, 10, 12].contains p.month then 0
    else if p.month != 2 then (if p.day == 31 then 1 else 0)
    else if p.year % 4 != 0 || (p.year % 100 == 0 && p.year % 400 != 0) then p.day - 28
    else p.day - 29
  { p with pastMonthEnd := past }

/-- A number kept raw; it is a Julian day as well when it is one. -/
def ofRaw (r : Float) : DateTime :=
  let p : DateTime := { second := r, raw := true }
  if r ≥ 0.0 && r < 5373484.5 then { p with jd := realToInteger (r * 86400000.0 + 0.5), hasJd := true }
  else p

/-- The current moment, or none when the clock gives none. -/
def current (now : Int) (p : DateTime) : Option DateTime :=
  if now > 0 then some { p with jd := now, hasJd := true, isUtc := true, isLocal := false }.clearParts
  else none

/-- Days since the first of January of the year, the time of day alike. -/
def daysIntoYear (p : DateTime) : Int :=
  let jan := { p with hasJd := false, month := 1, day := 1 }.computeJd
  Int.tdiv (p.jd - jan.jd + 43200000) 86400000

/-- Days since the last Monday. -/
def daysFromMonday (p : DateTime) : Int := Int.tmod (Int.tdiv (p.jd + 43200000) 86400000) 7

/-- Days since the last Sunday. -/
def daysFromSunday (p : DateTime) : Int := Int.tmod (Int.tdiv (p.jd + 129600000) 86400000) 7

/-- The Thursday of the week of a moment, whose year is the week's year. -/
def weekThursday (p : DateTime) : DateTime :=
  { p with jd := p.jd + (3 - p.daysFromMonday) * 86400000, hasDate := false }.computeDate

end DateTime

/-! ## Reading text -/

/-- Reads `count` digits as a number within `[lo, hi]`. -/
def digitsWithin (count : Nat) (lo hi : Int) (bs : Bytes) : Option (Int × Bytes) :=
  let ds := bs.take count
  if ds.length == count && ds.all isDigitByte then
    let v : Int := ds.foldl (fun a d => a * 10 + digitOf d) 0
    if v < lo || v > hi then none else some (v, bs.drop count)
  else none

/-- Skips one byte that must be `sep`. -/
def expectByte (sep : UInt8) : Bytes → Option Bytes
  | b :: rest => if b == sep then some rest else none
  | [] => none

/-- Reads the zone that may end a time: blanks, then `±HH:MM` or `Z`, then
blanks to the end. -/
def readZone (p : DateTime) (bs : Bytes) : Option DateTime :=
  let finish (p : DateTime) (rest : Bytes) : Option DateTime :=
    if (rest.dropWhile isBlankByte).isEmpty then some p else none
  match bs.dropWhile isBlankByte with
  | [] => some { p with zone := 0 }
  | c :: rest =>
    if c == 0x5a || c == 0x7a then finish { p with zone := 0, isLocal := false, isUtc := true } rest
    else if c == 0x2b || c == 0x2d then do
      let (h, r) ← digitsWithin 2 0 14 rest
      let r ← expectByte 0x3a r
      let (m, r) ← digitsWithin 2 0 59 r
      let sign : Int := if c == 0x2d then -1 else 1
      finish { p with zone := sign * (m + h * 60) } r
    else none

/-- The fraction of a second written by digits after the point, at most
0.999. -/
def fractionOf (ds : Bytes) : Float :=
  let (num, scale) := ds.foldl (fun (n, s) d => (n * 10.0 + Float.ofNat (digitOf d), s * 10.0)) (0.0, 1.0)
  let f := num / scale
  if f > 0.999 then 0.999 else f

/-- Reads a time `HH:MM[:SS[.SSS]]` and the zone after it, to the end. -/
def readTime (p : DateTime) (bs : Bytes) : Option DateTime := do
  let (h, r) ← digitsWithin 2 0 24 bs
  let r ← expectByte 0x3a r
  let (m, r) ← digitsWithin 2 0 59 r
  let (sec, r) ← match r with
    | 0x3a :: r => do
      let (s, r) ← digitsWithin 2 0 59 r
      match r with
      | 0x2e :: d :: more =>
        if isDigitByte d then
          let ds := (d :: more).takeWhile isDigitByte
          pure (Float.ofInt s + fractionOf ds, (d :: more).drop ds.length)
        else pure (Float.ofInt s, r)
      | _ => pure (Float.ofInt s, r)
    | r => pure (0.0, r)
  readZone { p with hasJd := false, raw := false, hasTime := true, hour := h, minute := m, second := sec } r

/-- Reads a date `YYYY-MM-DD` (a leading `-` for years before 1 AD),
optionally followed by blanks or `T` and a time. -/
def readDate (p : DateTime) (bs : Bytes) : Option DateTime := do
  let (negative, bs) := match bs with
    | 0x2d :: r => (true, r)
    | r => (false, r)
  let (y, r) ← digitsWithin 4 0 14712 bs
  let r ← expectByte 0x2d r
  let (m, r) ← digitsWithin 2 1 12 r
  let r ← expectByte 0x2d r
  let (d, r) ← digitsWithin 2 1 31 r
  let r := r.dropWhile fun c => isBlankByte c || c == 0x54
  let p ← match readTime p r with
    | some q => some q
    | none => if r.isEmpty then some { p with hasTime := false } else none
  let p := { p with hasJd := false, hasDate := true, year := if negative then -y else y, month := m,
                    day := d }.withMonthEnd
  if p.zone != 0 then some p.computeJd else some p

/-- Reads the text of the first argument. -/
def readMomentText (now : Int) (bs : Bytes) : Option DateTime :=
  match readDate {} bs with
  | some p => some p
  | none =>
    match readTime {} bs with
    | some p => some p
    | none =>
      let word := bs.map lowerByte
      if word == bytesOf "now" then DateTime.current now {}
      else
        match readReal bs with
        | (r, .integer) | (r, .decimal) => some (DateTime.ofRaw r)
        | _ =>
          if word == bytesOf "subsec" || word == bytesOf "subsecond" then
            DateTime.current now { subsecond := true }
          else none

/-! ## Modifiers -/

/-- A unit of `±N unit`: its name, the largest magnitude it takes, and its
length in seconds (thirty days for a month, 365 for a year, for their
fractions). -/
def timeUnits : List (String × Float × Float) :=
  [("second", 464269992787968.0, 1.0), ("minute", 7737900007424.0, 60.0),
   ("hour", 128969998336.0, 3600.0), ("day", 5373485.0, 86400.0),
   ("month", 176546.0, 2592000.0), ("year", 14713.0, 31536000.0)]

/-- Moves the civil date by whole months (the rest of a month carried into
the year), keeping the time of day. -/
def DateTime.addMonths (p : DateTime) (months : Int) : DateTime :=
  let p := p.computeAll
  let m := p.month + months
  let x := if m > 0 then Int.tdiv (m - 1) 12 else Int.tdiv (m - 12) 12
  { p with year := p.year + x, month := m - x * 12, hasJd := false }.withMonthEnd

/-- `±N unit`: `r` units, where `unit` is the text after the number. -/
def shiftByUnits (p : DateTime) (r : Float) (unit : Bytes) : Option DateTime :=
  let unit := unit.dropWhile isBlankByte
  let n := unit.length
  if n < 3 || n > 10 then none
  else
    let name := if lowerByte (unit.getLast?.getD 0) == 0x73 then unit.dropLast else unit
    let name := name.map lowerByte
    let p := { p.computeJd with pastMonthEnd := 0 }
    let rounder := if r < 0.0 then -0.5 else 0.5
    match timeUnits.find? fun (u, limit, _) => bytesOf u == name && r > -limit && r < limit with
    | none => none
    | some (u, _, seconds) =>
      let (p, rest) :=
        if u == "month" then
          let whole := realToInteger r
          (p.addMonths whole, r - Float.ofInt whole)
        else if u == "year" then
          let whole := realToInteger r
          ({ p.computeAll with year := p.computeAll.year + whole, hasJd := false }.withMonthEnd,
            r - Float.ofInt whole)
        else (p, r)
      let p := p.computeJd
      some { p with jd := p.jd + realToInteger (rest * 1000.0 * seconds + rounder) }.clearParts

/-- `±HH:MM[:SS[.SSS]]`: moves the moment by a time of day (hours past 23
wrap to a whole day, which is dropped). -/
def shiftByTime (p : DateTime) (text : Bytes) (negative : Bool) : Option DateTime := do
  let text := match text with
    | c :: rest => if isDigitByte c then c :: rest else rest
    | [] => []
  let t ← readTime {} text
  let t := t.computeJd
  let ms := t.jd - 43200000
  let ms := ms - Int.tdiv ms 86400000 * 86400000
  let ms := if negative then -ms else ms
  let p := p.computeJd.clearParts
  pure { p with jd := p.jd + ms }

/-- `±YYYY-MM-DD[ HH:MM[:SS]]`: moves the civil date by years and months,
then the moment by days and the time. `digits` is the count of year digits. -/
def shiftByDate (p : DateTime) (z : Bytes) (digits : Nat) (negative : Bool) : Option DateTime := do
  let body := z.drop 1
  let (y, r) ← digitsWithin digits 0 14712 body
  let r ← expectByte 0x2d r
  let (m, r) ← digitsWithin 2 0 12 r
  let r ← expectByte 0x2d r
  let (d, r) ← digitsWithin 2 0 31 r
  if m ≥ 12 || d ≥ 31 then none
  let p := p.computeAll
  let (yy, mm, dd) := if negative then (p.year - y, p.month - m, -d) else (p.year + y, p.month + m, d)
  let x := if mm > 0 then Int.tdiv (mm - 1) 12 else Int.tdiv (mm - 12) 12
  let p := { p with year := yy + x, month := mm - x * 12, hasJd := false }.withMonthEnd.computeJd
  let p := { p with hasDate := false, hasTime := false, jd := p.jd + dd * 86400000 }
  match r with
  | [] => pure p
  | c :: rest =>
    if isBlankByte c && (digitsWithin 2 0 24 rest).isSome then
      match (digitsWithin 2 0 24 rest) with
      | some (_, 0x3a :: more) =>
        if (digitsWithin 2 0 59 more).isSome then shiftByTime p rest negative else none
      | _ => none
    else none

/-- A modifier that starts with a sign or a digit. -/
def numericModifier (p : DateTime) (z : Bytes) : Option DateTime := do
  let arr := z.toArray
  let byteAt (i : Nat) : UInt8 := arr.getD i 0
  let yearDigits (k : Nat) : Bool := (digitsWithin k 0 14712 (z.drop 1)).isSome
  -- the number ends at a colon, a blank, or the dash after a year
  let rec scan (i : Nat) : Nat → Nat
    | 0 => i
    | fuel + 1 =>
      let b := byteAt i
      if b == 0 || b == 0x3a || isBlankByte b then i
      else if b == 0x2d && ((i == 5 && yearDigits 4) || (i == 6 && yearDigits 5)) then i
      else scan (i + 1) fuel
  let n := scan 1 arr.size
  let r ← match readReal (z.take n) with
    | (r, .integer) | (r, .decimal) => some r
    | _ => none
  let first := byteAt 0
  let negative := first == 0x2d
  if byteAt n == 0x2d then
    if first != 0x2b && first != 0x2d then none
    else shiftByDate p z (n - 1) negative
  else if byteAt n == 0x3a then shiftByTime p z negative
  else shiftByUnits p r (z.drop n)

/-- The moment of a Julian day as the civil date and time of the zone the
functions run in, which is UTC. -/
def DateTime.toLocal (p : DateTime) : DateTime :=
  let p := p.computeJd
  let (y, m, d) := civilOf p.jd
  let seconds := Int.tmod (Int.tdiv p.jd 1000 + 43200) 86400
  { p with year := y, month := m, day := d, hour := seconds / 3600, minute := seconds / 60 % 60,
           second := Float.ofInt (seconds % 60) + Float.ofInt (Int.tmod p.jd 1000) * 0.001,
           hasDate := true, hasTime := true, hasJd := false, raw := false, zone := 0 }

/-- Applies one modifier; `first` when it is the first. -/
def applyModifier (p : DateTime) (z : Bytes) (first : Bool) : Option DateTime :=
  let lower := z.map lowerByte
  let is (w : String) : Bool := lower == bytesOf w
  match lower with
  | [] => none
  | c :: _ =>
    if c == 0x61 then
      if !is "auto" || !first then none
      else if !p.raw || p.hasJd then some { p with raw := false }
      else if p.second ≥ -210866760000.0 && p.second ≤ 253402300799.0 then
        let r := p.second * 1000.0 + 210866760000000.0
        some { p.clearParts with jd := realToInteger (r + 0.5), hasJd := true, raw := false }
      else none
    else if c == 0x63 then
      if is "ceiling" then some { p.computeJd.clearParts with pastMonthEnd := 0 } else none
    else if c == 0x66 then
      if is "floor" then
        let q := p.computeJd
        some { q with jd := q.jd - q.pastMonthEnd * 86400000 }.clearParts
      else none
    else if c == 0x6a then
      if !is "julianday" || !first then none
      else if p.hasJd && p.raw then some { p with raw := false }
      else none
    else if c == 0x6c then
      if is "localtime" then
        some { (if p.isLocal then p else p.toLocal) with isUtc := false, isLocal := true }
      else none
    else if c == 0x75 then
      if is "unixepoch" && p.raw then
        if !first then none
        else
          let r := p.second * 1000.0 + 210866760000000.0
          if r ≥ 0.0 && r < 464269060800000.0 then
            some { p.clearParts with jd := realToInteger (r + 0.5), hasJd := true, raw := false }
          else none
      else if is "utc" then
        if p.isUtc then some p
        else some { jd := p.computeJd.jd, hasJd := true, isUtc := true }
      else none
    else if c == 0x77 then
      if lower.take 8 != bytesOf "weekday " then none
      else
        match readReal (z.drop 8) with
        | (r, .integer) | (r, .decimal) =>
          let n := realToInteger r
          if r ≥ 0.0 && r < 7.0 && Float.ofInt n == r then
            let q := { p.computeAll with zone := 0, hasJd := false }.computeJd
            let day := q.daysFromSunday
            let day := if day > n then day - 7 else day
            some { q with jd := q.jd + (n - day) * 86400000 }.clearParts
          else none
        | _ => none
    else if c == 0x73 then
      if lower.take 9 == bytesOf "start of " then
        if !p.hasJd && !p.hasDate && !p.hasTime then none
        else
          let q := { p.computeDate with hasTime := true, hour := 0, minute := 0, second := 0.0, raw := false,
                                        zone := 0, hasJd := false }
          let unit := lower.drop 9
          if unit == bytesOf "month" then some { q with day := 1 }
          else if unit == bytesOf "year" then some { q with month := 1, day := 1 }
          else if unit == bytesOf "day" then some q
          else none
      else if is "subsec" || is "subsecond" then some { p with subsecond := true }
      else none
    else if c == 0x2b || c == 0x2d || isDigitByte c then numericModifier p z
    else none

/-! ## The functions -/

/-- The text of an argument as the functions read it: up to its first NUL. -/
def argumentText (v : SqlValue) : Option Bytes := v.textBytes?.map (·.takeWhile (· != 0))

/-- The moment the arguments of a date function give: the first argument
(the current moment when there is none), then the modifiers; none for an
argument that cannot be read. -/
def momentOf (now : Int) (args : List SqlValue) : Option DateTime := do
  let start ← match args with
    | [] => DateTime.current now {}
    | .integer i :: _ => some (DateTime.ofRaw (integerToReal i))
    | .real r :: _ => some (DateTime.ofRaw r)
    | v :: _ => (argumentText v).bind (readMomentText now)
  let (p, _) ← (args.drop 1).foldlM (fun (p, first) m => do
    let text ← argumentText m
    let q ← applyModifier p text first
    pure (q, false)) (start, true)
  let p := p.computeJd
  if p.failed || !validJulianMillis p.jd then none
  -- a date alone past the end of its month is shown as the date it runs into
  else if args.length == 1 && p.hasDate && p.day > 28 then some { p with hasDate := false }
  else some p

/-- A number in decimal, at least `width` characters, zeros after the sign. -/
def zeroPadded (width : Nat) (n : Int) : String :=
  let s := toString n.natAbs
  if n < 0 then "-" ++ String.ofList (List.replicate (width - 1 - s.length) '0') ++ s
  else String.ofList (List.replicate (width - s.length) '0') ++ s

/-- A number in decimal, at least `width` characters, blanks before it. -/
def spacePadded (width : Nat) (n : Int) : String :=
  let s := toString n
  String.ofList (List.replicate (width - s.length) ' ') ++ s

/-- The last `count` decimal digits of a natural number. -/
def lastDigits (count : Nat) (n : Nat) : String :=
  String.ofList ((List.range count).reverse.map fun k => Char.ofNat (48 + n / Nat.pow 10 k % 10))

/-- `YYYY-MM-DD`, with a minus sign before a year before 1 AD. -/
def DateTime.dateText (p : DateTime) : String :=
  (if p.year < 0 then "-" else "") ++ lastDigits 4 p.year.natAbs ++ "-" ++ lastDigits 2 p.month.natAbs ++
    "-" ++ lastDigits 2 p.day.natAbs

/-- `HH:MM:SS`, or `HH:MM:SS.SSS` when milliseconds are shown. -/
def DateTime.timeText (p : DateTime) : String :=
  let seconds :=
    if p.subsecond then
      let s := (realToInteger (1000.0 * p.second + 0.5)).natAbs
      lastDigits 2 (s / 1000) ++ "." ++ lastDigits 3 s
    else lastDigits 2 (realToInteger p.second).natAbs
  lastDigits 2 p.hour.natAbs ++ ":" ++ lastDigits 2 p.minute.natAbs ++ ":" ++ seconds

/-- Seconds since 1970: whole, or with milliseconds when they are shown. -/
def DateTime.unixText (p : DateTime) : String :=
  if p.subsecond then
    formatReal { conversion := .fixed, precision := some 3 } (Float.ofInt (p.jd - unixEpochMillis) / 1000.0)
  else toString (Int.tdiv p.jd 1000 - 210866760000)

/-- The text one conversion of `strftime` writes; none for a conversion it
does not know. -/
def strftimePiece (p : DateTime) (c : UInt8) : Option String :=
  match Char.ofNat c.toNat with
  | 'd' => some (zeroPadded 2 p.day)
  | 'e' => some (spacePadded 2 p.day)
  | 'f' =>
    let s := if p.second > 59.999 then 59.999 else p.second
    some (formatReal { conversion := .fixed, precision := some 3, zeroPad := true, width := 6 } s)
  | 'F' => some (zeroPadded 4 p.year ++ "-" ++ zeroPadded 2 p.month ++ "-" ++ zeroPadded 2 p.day)
  | 'G' => some (zeroPadded 4 p.weekThursday.year)
  | 'g' => some (zeroPadded 2 (Int.tmod p.weekThursday.year 100))
  | 'H' => some (zeroPadded 2 p.hour)
  | 'k' => some (spacePadded 2 p.hour)
  | 'I' | 'l' =>
    let h := if p.hour > 12 then p.hour - 12 else p.hour
    let h := if h == 0 then 12 else h
    some (if c == 0x49 then zeroPadded 2 h else spacePadded 2 h)
  | 'j' => some (zeroPadded 3 (p.daysIntoYear + 1))
  | 'J' => some (formatReal { conversion := .general, precision := some 16 } (Float.ofInt p.jd / 86400000.0))
  | 'm' => some (zeroPadded 2 p.month)
  | 'M' => some (zeroPadded 2 p.minute)
  | 'p' => some (if p.hour ≥ 12 then "PM" else "AM")
  | 'P' => some (if p.hour ≥ 12 then "pm" else "am")
  | 'R' => some (zeroPadded 2 p.hour ++ ":" ++ zeroPadded 2 p.minute)
  | 's' => some p.unixText
  | 'S' => some (zeroPadded 2 (realToInteger p.second))
  | 'T' => some (zeroPadded 2 p.hour ++ ":" ++ zeroPadded 2 p.minute ++ ":" ++ zeroPadded 2 (realToInteger p.second))
  | 'u' => some (toString (if p.daysFromSunday == 0 then 7 else p.daysFromSunday))
  | 'w' => some (toString p.daysFromSunday)
  | 'U' => some (zeroPadded 2 (Int.tdiv (p.daysIntoYear - p.daysFromSunday + 7) 7))
  | 'V' => some (zeroPadded 2 (Int.tdiv p.weekThursday.daysIntoYear 7 + 1))
  | 'W' => some (zeroPadded 2 (Int.tdiv (p.daysIntoYear - p.daysFromMonday + 7) 7))
  | 'Y' => some (zeroPadded 4 p.year)
  | '%' => some "%"
  | _ => none

/-- Formats a moment as `strftime` does; none when the format has a
conversion it does not know. -/
def strftimeText (fmt : Bytes) (p : DateTime) : Option Bytes :=
  let rec go (bs : Bytes) (acc : Array UInt8) : Nat → Option Bytes
    | 0 => some acc.toList
    | fuel + 1 =>
      match bs with
      | [] => some acc.toList
      | 0x25 :: rest =>
        match rest with
        | c :: more =>
          match strftimePiece p c with
          | some piece => go more (acc ++ (bytesOf piece).toArray) fuel
          | none => none
        | [] => none
      | c :: rest => go rest (acc.push c) fuel
  go fmt #[] (fmt.length + 1)

/-- `timediff(A, B)`: the years, months, days and time to add to `B` to
reach `A`, as `±YYYY-MM-DD HH:MM:SS.SSS`. -/
def timeDifference (a b : DateTime) : String :=
  let d1 := a.computeAll
  let d2 := b.computeAll
  let step (d2 : DateTime) : DateTime := { d2 with hasJd := false }.computeJd
  -- moves `d2` month by month towards `d1` while it is past it (or before it)
  let rec settle (later : Bool) (d2 : DateTime) (y m : Int) : Nat → DateTime × Int × Int
    | 0 => (d2, y, m)
    | fuel + 1 =>
      if (if later then d1.jd < d2.jd else d1.jd > d2.jd) then
        let (m, y) := if m - 1 < 0 then (11, y - 1) else (m - 1, y)
        let d2 :=
          if later then
            if d2.month - 1 < 1 then { d2 with month := 12, year := d2.year - 1 } else { d2 with month := d2.month - 1 }
          else if d2.month + 1 > 12 then { d2 with month := 1, year := d2.year + 1 } else { d2 with month := d2.month + 1 }
        settle later (step d2) y m fuel
      else (d2, y, m)
  let later := d1.jd ≥ d2.jd
  let y := if later then d1.year - d2.year else d2.year - d1.year
  let d2 := if y != 0 then step { d2 with year := d1.year } else d2
  let m := if later then d1.month - d2.month else d2.month - d1.month
  let (y, m) := if m < 0 then (y - 1, m + 12) else (y, m)
  let d2 := if m != 0 then step { d2 with month := d1.month } else d2
  let (d2, y, m) := settle later d2 y m (Int.natAbs (y * 12 + m) + 14)
  let diff := if later then d1.jd - d2.jd else d2.jd - d1.jd
  let r : DateTime := { jd := diff + 148699540800000, hasJd := true }
  let r := r.computeAll
  let s := formatReal { conversion := .fixed, precision := some 3, zeroPad := true, width := 6 } r.second
  (if later then "+" else "-") ++ zeroPadded 4 y ++ "-" ++ zeroPadded 2 m ++ "-" ++ zeroPadded 2 (r.day - 1) ++
    " " ++ zeroPadded 2 r.hour ++ ":" ++ zeroPadded 2 r.minute ++ ":" ++ s

/-- The text or number a date function gives for a moment. -/
def momentResult (name : String) (p : DateTime) : SqlValue :=
  match name with
  | "date" | "current_date" => .ofString p.computeDate.dateText
  | "time" | "current_time" => .ofString p.computeTime.timeText
  | "datetime" | "current_timestamp" => let p := p.computeAll; .ofString (p.dateText ++ " " ++ p.timeText)
  | "julianday" => .real (Float.ofInt p.jd / 86400000.0)
  | "unixepoch" =>
    if p.subsecond then .real (Float.ofInt (p.jd - unixEpochMillis) / 1000.0)
    else .integer (Int.tdiv p.jd 1000 - 210866760000)
  | _ => .null

/-- Calls a date and time function; `now` is the current moment. -/
def dateFunction (name : String) (now : Int) (args : List SqlValue) : SqlValue :=
  match name with
  | "strftime" =>
    match args with
    | f :: rest =>
      match argumentText f, momentOf now rest with
      | some fmt, some p =>
        match strftimeText fmt p.computeAll with
        | some text => .text text
        | none => .null
      | _, _ => .null
    | [] => .null
  | "timediff" =>
    match args with
    | [a, b] =>
      match momentOf now [a], momentOf now [b] with
      | some x, some y => .ofString (timeDifference x y)
      | _, _ => .null
    | _ => .null
  | _ =>
    let args := if name.startsWith "current_" then [] else args
    match momentOf now args with
    | some p => momentResult name p
    | none => .null

/-- Whether a name is a date and time function. -/
def isDateFunction (name : String) : Bool :=
  ["date", "time", "datetime", "julianday", "unixepoch", "strftime", "timediff", "current_date",
   "current_time", "current_timestamp"].contains name

end ReportExport.Sql
