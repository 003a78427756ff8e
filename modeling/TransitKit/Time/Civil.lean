import TransitKit.Fault

/-!
# Civil timestamps

A timestamp is a date of the proleptic Gregorian calendar, years 1 to 9999, a time of day to the
second, and an optional offset from UTC in seconds; one without an offset is a local time whose
zone is unknown. Dates are converted to day numbers counted from 1 January of year 1 (day 1), so
moving by seconds is an addition.
-/

namespace TransitKit.Time

/-- A leap year: divisible by 4, and not by 100 unless by 400. -/
def isLeapYear (y : Nat) : Bool := y % 4 == 0 && (y % 100 != 0 || y % 400 == 0)

/-- The number of days of a month of a year. -/
def daysInMonth (y m : Nat) : Nat :=
  match m with
  | 2 => if isLeapYear y then 29 else 28
  | 4 | 6 | 9 | 11 => 30
  | _ => 31

/-- The days of the years before year `y`. -/
def daysBeforeYear (y : Nat) : Nat :=
  let p := y - 1
  p * 365 + p / 4 - p / 100 + p / 400

/-- The days of the months before month `m` of year `y`. -/
def daysBeforeMonth (y m : Nat) : Nat :=
  (List.range (m - 1)).foldl (fun acc i => acc + daysInMonth y (i + 1)) 0

/-- The last day number of year 9999. -/
def lastDayNumber : Nat := daysBeforeYear 10000

/-- A date and time of day with an optional offset from UTC in seconds. -/
structure Timestamp where
  year : Nat
  month : Nat
  day : Nat
  hour : Nat
  minute : Nat
  second : Nat
  offset : Option Int
deriving Repr, BEq, DecidableEq, Inhabited

/-- Checks that `lo ≤ v ≤ hi`, failing with a bad value otherwise. -/
def inRange (v lo hi : Int) : Outcome Nat :=
  if lo ≤ v ∧ v ≤ hi then .ok v.toNat else .error (.plain .badValue)

/-- A timestamp from its fields, checked against the calendar: years 1 to 9999, a day
that the month has, hours below 24, minutes and seconds below 60. -/
def Timestamp.make? (year month day hour minute second : Int) (offset : Option Int) :
    Outcome Timestamp := do
  let y ← inRange year 1 9999
  let m ← inRange month 1 12
  let d ← inRange day 1 (daysInMonth y m)
  let h ← inRange hour 0 23
  let mi ← inRange minute 0 59
  let s ← inRange second 0 59
  return ⟨y, m, d, h, mi, s, offset⟩

/-- The largest number of days a span of time may hold. -/
def maxSpanDays : Int := 999999999

/-- A span of `n` seconds exists when its whole days, rounded down, number at most
`maxSpanDays` in size. -/
def spanOfSeconds? (n : Int) : Outcome Int :=
  let days := n / 86400
  if -maxSpanDays ≤ days ∧ days ≤ maxSpanDays then .ok n else .error (.plain .overflow)

/-- An offset from UTC: a span of time strictly shorter than a day either way. -/
def zoneOffset? (n : Int) : Outcome Int := do
  let n ← spanOfSeconds? n
  if -86400 < n ∧ n < 86400 then return n else throw (.plain .badValue)

/-- The day number of a timestamp's date, 1 for 1 January of year 1. -/
def Timestamp.dayNumber (t : Timestamp) : Nat :=
  daysBeforeYear t.year + daysBeforeMonth t.year t.month + t.day

/-- The seconds since midnight of a timestamp. -/
def Timestamp.secondOfDay (t : Timestamp) : Nat := t.hour * 3600 + t.minute * 60 + t.second

/-- The year that holds a day number: estimated from the 146097 days of a 400-year cycle,
then corrected by at most one year. -/
def yearOfDay (n : Nat) : Nat :=
  let est := n * 400 / 146097 + 1
  -- the estimate is never more than one year off
  if daysBeforeYear (est + 1) < n then est + 1
  else if daysBeforeYear est < n then est
  else est - 1

/-- The month and day of a day number within a year. -/
def monthOfDay (y : Nat) (dayOfYear : Nat) : Nat × Nat :=
  go 1 dayOfYear 12
where
  go (m rest : Nat) : Nat → Nat × Nat
    | 0 => (m, rest)
    | fuel + 1 =>
      if rest ≤ daysInMonth y m then (m, rest) else go (m + 1) (rest - daysInMonth y m) fuel

/-- The date of a day number, as year, month and day. -/
def dateOfDay (n : Nat) : Nat × Nat × Nat :=
  let y := yearOfDay n
  let (m, d) := monthOfDay y (n - daysBeforeYear y)
  (y, m, d)

/-- Moves a timestamp by `n` seconds, keeping its offset. The span must exist and the
result must fall within the years 1 to 9999. -/
def Timestamp.addSeconds (t : Timestamp) (n : Int) : Outcome Timestamp := do
  let n ← spanOfSeconds? n
  let total : Int := (t.dayNumber : Int) * 86400 + t.secondOfDay + n
  let day := total / 86400
  let sec := (total % 86400).toNat
  if day < 1 ∨ day > lastDayNumber then throw (.plain .overflow)
  let (y, m, d) := dateOfDay day.toNat
  return ⟨y, m, d, sec / 3600, sec / 60 % 60, sec % 60, t.offset⟩

/-- A number written with at least `width` digits, zeros in front. -/
def padded (width n : Nat) : String :=
  let s := toString n
  String.ofList (List.replicate (width - s.length) '0') ++ s

/-- The text of an offset: sign, hours and minutes, and seconds when there are any. -/
def offsetText (off : Int) : String :=
  let sign := if off < 0 then "-" else "+"
  let a := off.natAbs
  let base := sign ++ padded 2 (a / 3600) ++ ":" ++ padded 2 (a / 60 % 60)
  if a % 60 == 0 then base else base ++ ":" ++ padded 2 (a % 60)

/-- The ISO 8601 text of a timestamp. -/
def Timestamp.isoText (t : Timestamp) : String :=
  padded 4 t.year ++ "-" ++ padded 2 t.month ++ "-" ++ padded 2 t.day ++ "T" ++
    padded 2 t.hour ++ ":" ++ padded 2 t.minute ++ ":" ++ padded 2 t.second ++
    (match t.offset with
     | some off => offsetText off
     | none => "")

/-- A number of exactly `n` ASCII digits at the front of a text, and the rest. -/
def leadingNumber? (n : Nat) (cs : List Char) : Option (Nat × List Char) :=
  let ds := cs.take n
  if ds.length == n && ds.all Char.isDigit then
    some (ds.foldl (fun acc c => acc * 10 + (c.toNat - 48)) 0, cs.drop n)
  else none

/-- Up to three two-digit fields joined by colons, read as hours, minutes and seconds:
`HH`, `HH:MM`, `HH:MM:SS`. When `compact` is set the colons may all be left out. -/
def clockFields? (compact : Bool) (cs : List Char) : Option (Nat × Nat × Nat × List Char) := do
  let (h, r) ← leadingNumber? 2 cs
  match r with
  | ':' :: r =>
    let (m, r) ← leadingNumber? 2 r
    match r with
    | ':' :: r =>
      let (s, r) ← leadingNumber? 2 r
      pure (h, m, s, r)
    | _ => pure (h, m, 0, r)
  | _ =>
    if compact then
      match leadingNumber? 2 r with
      | some (m, r) =>
        match leadingNumber? 2 r with
        | some (s, r) => pure (h, m, s, r)
        | none => pure (h, m, 0, r)
      | none => pure (h, 0, 0, r)
    else pure (h, 0, 0, r)

/-- An offset written `Z`, or a sign and `HH`, `HH:MM`, `HHMM` or `HH:MM:SS`. -/
def offsetOfText? : List Char → Option Int
  | ['Z'] => some 0
  | c :: rest =>
    if c == '+' || c == '-' then do
      let (h, m, s, r) ← clockFields? true rest
      if !r.isEmpty || m ≥ 60 || s ≥ 60 then none
      let size : Int := h * 3600 + m * 60 + s
      pure (if c == '-' then -size else size)
    else none
  | [] => none

/-- Reads an ISO 8601 timestamp: the date `YYYY-MM-DD`, then optionally one separator
character, the time `HH`, `HH:MM` or `HH:MM:SS`, and an offset. A text of another form,
or fields outside the calendar, are a bad value. -/
def Timestamp.ofIsoText? (text : String) : Outcome Timestamp :=
  let bad : Outcome Timestamp := .error (.plain .badValue)
  let cs := text.toList
  match leadingNumber? 4 cs with
  | some (y, '-' :: r) =>
    match leadingNumber? 2 r with
    | some (m, '-' :: r) =>
      match leadingNumber? 2 r with
      | some (d, []) => Timestamp.make? y m d 0 0 0 none
      | some (d, _ :: r) =>
        match clockFields? false r with
        | some (h, mi, s, []) => Timestamp.make? y m d h mi s none
        | some (h, mi, s, zone) =>
          match offsetOfText? zone with
          | some off => do
            let off ← zoneOffset? off
            Timestamp.make? y m d h mi s (some off)
          | none => bad
        | none => bad
      | none => bad
    | _ => bad
  | _ => bad

/-- The same timestamp read as UTC when it has no offset. -/
def Timestamp.orUtc (t : Timestamp) : Timestamp :=
  match t.offset with
  | some _ => t
  | none => { t with offset := some 0 }

end TransitKit.Time
