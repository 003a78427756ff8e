import TransitKit.Json.Literal
import TransitKit.Time.Civil

/-!
# TOML values

The values a TOML document holds: texts, integers, doubles, booleans, the four kinds of date and
time, arrays and tables, whose keys keep the order they were first written in. Each value has a
plain text and a literal, as the tooling that reads the document prints them.
-/

namespace TransitKit.Toml

open Time

/-- A date of the calendar. -/
structure Date where
  year : Nat
  month : Nat
  day : Nat
deriving DecidableEq

/-- A time of day to the microsecond. -/
structure Clock where
  hour : Nat
  minute : Nat
  second : Nat
  micros : Nat
deriving DecidableEq

/-- A TOML value. A date and time carries its offset from UTC in minutes, or none for a
local date and time. -/
inductive Value where
  | string (s : String)
  | integer (n : Int)
  | float (x : Float)
  | boolean (b : Bool)
  | dateTime (d : Date) (t : Clock) (offset : Option Int)
  | date (d : Date)
  | time (t : Clock)
  | array (items : List Value)
  | table (members : List (String × Value))

/-- The members of a table, in order. -/
abbrev Members := List (String × Value)

/-- The value under a key of a table. -/
def Members.get? (ms : Members) (k : String) : Option Value :=
  (ms.find? (·.1 == k)).map (·.2)

/-- A date as `YYYY-MM-DD`. -/
def Date.text (d : Date) : String :=
  padded 4 d.year ++ "-" ++ padded 2 d.month ++ "-" ++ padded 2 d.day

/-- A time as `HH:MM:SS`, with six digits of microseconds when there are any. -/
def Clock.text (t : Clock) : String :=
  padded 2 t.hour ++ ":" ++ padded 2 t.minute ++ ":" ++ padded 2 t.second ++
    (if t.micros == 0 then "" else "." ++ padded 6 t.micros)

/-- An offset of minutes as `+HH:MM` or `-HH:MM`. -/
def offsetClock (minutes : Int) : String :=
  let a := minutes.natAbs
  (if minutes < 0 then "-" else "+") ++ padded 2 (a / 60) ++ ":" ++ padded 2 (a % 60)

/-- The numbers of a call that builds a time: hour and minute, then the second when the
second or the microseconds are not zero, then the microseconds when they are not. -/
def Clock.callArgs (t : Clock) : List Nat :=
  if t.micros != 0 then [t.hour, t.minute, t.second, t.micros]
  else if t.second != 0 then [t.hour, t.minute, t.second]
  else [t.hour, t.minute]

/-- The literal of a fixed offset: UTC by name, any other as a span of days and seconds
with the seconds in `[0, 86400)`. -/
def offsetLiteral (minutes : Int) : String :=
  if minutes == 0 then "datetime.timezone.utc"
  else
    let secs := minutes * 60
    let days := secs.fdiv 86400
    let rest := secs.fmod 86400
    let parts := (if days != 0 then ["days=" ++ toString days] else []) ++
      (if rest != 0 then ["seconds=" ++ toString rest] else [])
    "datetime.timezone(datetime.timedelta(" ++ ", ".intercalate parts ++ "))"

/-- Numbers separated by a comma and a space. -/
def numberList (ns : List Nat) : String := ", ".intercalate (ns.map toString)

namespace Value

mutual
/-- The literal of a value. -/
def literal : Value → String
  | .string s => quoteText s
  | .integer n => toString n
  | .float x => Number.floatText x
  | .boolean true => "True"
  | .boolean false => "False"
  | .dateTime d t off =>
    "datetime.datetime(" ++ numberList ([d.year, d.month, d.day] ++ t.callArgs) ++
      (match off with
        | some m => ", tzinfo=" ++ offsetLiteral m
        | none => "") ++ ")"
  | .date d => "datetime.date(" ++ numberList [d.year, d.month, d.day] ++ ")"
  | .time t => "datetime.time(" ++ numberList t.callArgs ++ ")"
  | .array items => "[" ++ literalItems items ++ "]"
  | .table ms => "\x7b" ++ literalMembers ms ++ "\x7d"

/-- The literals of items, separated by a comma and a space. -/
def literalItems : List Value → String
  | [] => ""
  | [x] => literal x
  | x :: xs => literal x ++ ", " ++ literalItems xs

/-- The members of a table as `'key': literal`, separated by a comma and a space. -/
def literalMembers : List (String × Value) → String
  | [] => ""
  | [(k, v)] => quoteText k ++ ": " ++ literal v
  | (k, v) :: rest => quoteText k ++ ": " ++ literal v ++ ", " ++ literalMembers rest
end

/-- The plain text of a value. -/
def plainText : Value → String
  | .string s => s
  | .dateTime d t off =>
    d.text ++ " " ++ t.text ++ (match off with
      | some m => offsetClock m
      | none => "")
  | .date d => d.text
  | .time t => t.text
  | v => v.literal

/-- The name of the kind of a value. -/
def typeName : Value → String
  | .string _ => "str"
  | .integer _ => "int"
  | .float _ => "float"
  | .boolean _ => "bool"
  | .dateTime _ _ _ => "datetime.datetime"
  | .date _ => "datetime.date"
  | .time _ => "datetime.time"
  | .array _ => "list"
  | .table _ => "dict"

end Value

theorem plainText_string (s : String) : (Value.string s).plainText = s := rfl

end TransitKit.Toml
