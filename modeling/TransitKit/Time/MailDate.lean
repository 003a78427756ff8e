import TransitKit.Time.Civil
import TransitKit.Text.Blank
import TransitKit.Text.CaseMap
import TransitKit.Text.Digit
import TransitKit.Text.IntLiteral

/-!
# Dates of mail and HTTP headers

The `Date` header of an HTTP answer is an RFC 2822 date. The reader is lenient in the ways mail
readers are: it skips a day name, reads dashed dates, splits an offset glued to the time, allows
a missing zone, takes day and month or year and time in either order, completes two-digit years
and knows the North American zone names. Then the calendar judges the fields, refusing offsets
of a day or more, days a month lacks and years outside 1 to 9999.
-/

namespace TransitKit.Time

open Text

/-- The fields that a date text names. The offset is in seconds; `none` means a time
without offset. -/
structure MailDate where
  year : Int
  month : Nat
  day : Int
  hour : Int
  minute : Int
  second : Int
  offset : Option Int
deriving Repr, BEq, Inhabited

namespace MailDate

/-- Month names, short and long; a month's number is its position modulo 12. -/
def monthNames : List String :=
  ["jan", "feb", "mar", "apr", "may", "jun", "jul", "aug", "sep", "oct", "nov", "dec",
   "january", "february", "march", "april", "may", "june", "july", "august", "september",
   "october", "november", "december"]

/-- Short day names. -/
def dayNames : List String := ["mon", "tue", "wed", "thu", "fri", "sat", "sun"]

/-- Zone names and their offsets as signed `HHMM` numbers. -/
def zoneNames : List (String × Int) :=
  [("UT", 0), ("UTC", 0), ("GMT", 0), ("Z", 0), ("AST", -400), ("ADT", -300),
   ("EST", -500), ("EDT", -400), ("CST", -600), ("CDT", -500), ("MST", -700),
   ("MDT", -600), ("PST", -800), ("PDT", -700)]

/-- The text after the last occurrence of `c`, if there is one. -/
def afterLast (c : Char) (s : String) : Option String :=
  let cs := s.toList
  match cs.reverse.idxOf? c with
  | some j => some (String.ofList (cs.drop (cs.length - j)))
  | none => none

/-- Drops one trailing comma. -/
def dropComma (s : String) : String :=
  if s.endsWith "," then String.ofList s.toList.dropLast else s

/-- Skips a leading day name: a first word ending in a comma or naming a day goes, and
otherwise only the text after a comma in it stays. -/
def skipDayName : List String → List String
  | [] => []
  | w :: rest =>
    if w.endsWith "," || dayNames.contains (lowerText w) then rest
    else match afterLast ',' w with
      | some tail => tail :: rest
      | none => w :: rest

/-- Reads a dash-joined date when there are three words. -/
def spreadDashes (ws : List String) : List String :=
  match ws with
  | [d, t, z] =>
    match d.splitOn "-" with
    | [a, b, c] => [a, b, c, t, z]
    | _ => ws
  | _ => ws

/-- With four words, splits an offset off the time, or adds an empty zone. -/
def splitZone (ws : List String) : List String :=
  match ws with
  | [a, b, c, s] =>
    let cs := s.toList
    let i := match cs.idxOf? '+' with
      | some i => some i
      | none => cs.idxOf? '-'
    match i with
    | some (k + 1) => [a, b, c, String.ofList (cs.take (k + 1)), String.ofList (cs.drop (k + 1))]
    | _ => [a, b, c, s, ""]
  | _ => ws

/-- The number of a month name. -/
def monthNumber? (name : String) : Option Nat :=
  (monthNames.idxOf? name).map fun i => if i + 1 > 12 then i + 1 - 12 else i + 1

/-- The hour, minute and second texts of a time word. -/
def clockParts (tm : String) : Option (String × String × String) :=
  match tm.splitOn ":" with
  | [h, m] => some (h, m, "0")
  | [h, m, s] => some (h, m, s)
  | [one] =>
    if one.contains '.' then
      match one.splitOn "." with
      | [h, m] => some (h, m, "0")
      | [h, m, s] => some (h, m, s)
      | _ => none
    else none
  | _ => none

/-- A year below 100 moves into 1969 to 2068. -/
def fullYear (y : Int) : Int :=
  if y < 100 then (if y > 68 then y + 1900 else y + 2000) else y

/-- The offset in seconds of a zone text: a zone name, or a signed `HHMM` number; an
unreadable zone and a negative zero give none. -/
def zoneSeconds (tz : String) : Option Int :=
  let tz := upperText tz
  let hhmm : Option Int :=
    match zoneNames.lookup tz with
    | some v => some v
    | none =>
      match readInt? tz with
      | some 0 => if tz.startsWith "-" then none else some 0
      | other => other
  hhmm.map fun v =>
    let a : Int := v.natAbs
    let secs := (a / 100) * 3600 + (a % 100) * 60
    if v < 0 then -secs else secs

/-- The fields of a date text, or none when it is not a date. -/
def fields? (text : String) : Option MailDate := do
  let ws := words text
  if ws.isEmpty then none
  let ws := splitZone (spreadDashes (skipDayName ws))
  let (dd, mm, yy, tm, tz) ← match ws with
    | a :: b :: c :: d :: e :: _ => some (a, b, c, d, e)
    | _ => none
  if dd.isEmpty || mm.isEmpty || yy.isEmpty then none
  let (dd, month) ← match monthNumber? (lowerText mm) with
    | some n => some (dd, n)
    | none => (monthNumber? (lowerText dd)).map fun n => (lowerText mm, n)
  let dd := dropComma dd
  let (yy, tm) := match yy.toList.idxOf? ':' with
    | some (_ + 1) => (tm, yy)
    | _ => (yy, tm)
  let yy ← if yy.endsWith "," then
      (let y := dropComma yy; if y.isEmpty then none else some y)
    else some yy
  let (yy, tz) := match yy.toList with
    | c :: _ => if isDigitLike c then (yy, tz) else (tz, yy)
    | [] => (yy, tz)
  let (h, mi, s) ← clockParts (dropComma tm)
  let year ← readInt? yy
  let day ← readInt? dd
  let hour ← readInt? h
  let minute ← readInt? mi
  let second ← readInt? s
  return ⟨fullYear year, month, day, hour, minute, second, zoneSeconds tz⟩

/-- Whether an integer fits a signed 32-bit machine word. -/
def fitsWord (n : Int) : Bool := -2147483648 ≤ n && n ≤ 2147483647

/-- The timestamp of checked fields. The offset is judged first (a span too long to
exist overflows, an offset of a day or more is a bad value), then each field must fit a
machine word, then the calendar judges. -/
def toTimestamp (f : MailDate) : Outcome Timestamp := do
  let off ← match f.offset with
    | some o => (zoneOffset? o).map some
    | none => pure none
  if !([f.year, f.day, f.hour, f.minute, f.second].all fitsWord) then throw (.plain .overflow)
  Timestamp.make? f.year f.month f.day f.hour f.minute f.second off

end MailDate

/-- The timestamp of a date text; text that is not a date is a bad value. -/
def MailDate.timestamp? (text : String) : Outcome Timestamp :=
  match MailDate.fields? text with
  | some f => f.toTimestamp
  | none => .error (.plain .badValue)

end TransitKit.Time
