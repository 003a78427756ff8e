import TransitKit.Http.Headers
import TransitKit.Time.MailDate
import TransitKit.Text.IntLiteral
import TransitKit.Json.Value
import TransitKit.Text.Pieces

/-!
# Lifetimes of answers

An answer says when it was made (`Date`) and how long it stays fresh (`Cache-Control`). The
client cuts the directives at every comma and space, lets a later directive win and ignores an
argument that is no integer; an expiry is the date moved by the directive's seconds, and exists
only when both do. The two call styles read an empty `Date` differently: the direct one fails
on it, the awaited one treats it as absent.
-/

namespace TransitKit.Client

open Http Time Text

/-- The two ways of calling the service: waiting for the answer, or awaiting it in a
concurrent task. -/
inductive CallStyle where
  | direct
  | awaited
deriving Repr, BEq, DecidableEq, Inhabited

/-- The text between the first and the second `=` of a directive, or after the first
when there is no second. -/
def directiveArgument (piece : String) : String :=
  match splitAt '=' piece with
  | _ :: arg :: _ => arg
  | _ => ""

/-- The directives of a `Cache-Control` value that carry an argument, in order. -/
def directiveArgs (value : String) : List (String × String) :=
  ((splitAtPair ',' ' ' value).filter fun d => d.contains '=').map fun d =>
    ((splitAt '=' d).headD "", directiveArgument d)

/-- The argument of the last directive of a name. -/
def directiveArg? (value name : String) : Option String :=
  (directiveArgs value).foldl (fun acc (k, v) => if k == name then some v else acc) none

/-- The whole number a value stands for when read as an integer: a text in integer
syntax, an integer, a truth value as 0 or 1, or a finite number cut toward zero. Other
values stand for none; an infinite number cannot be cut and overflows. -/
def wholeNumber? : Json → Outcome (Option Int)
  | .str s => pure (readInt? s)
  | .int n => pure (some n)
  | .bool b => pure (some (if b then 1 else 0))
  | .float x =>
    if x.isNaN then pure none
    else if x.isInf then throw (.plain .overflow)
    else pure (Json.floatAsInt? (if x < 0 then -((-x).floor) else x.floor))
  | _ => pure none

/-- The `s-maxage` and the `max-age` of an answer, in seconds. -/
def maxAges (h : Headers) : Option Int × Option Int :=
  match h.get? "Cache-Control" with
  | none => (none, none)
  | some cc =>
    ((directiveArg? cc "s-maxage").bind readInt?, (directiveArg? cc "max-age").bind readInt?)

/-- The `Date` of an answer, for a client of the given style. An unreadable date fails. -/
def answerDate (style : CallStyle) (h : Headers) : Outcome (Option Timestamp) :=
  let text := match style with
    | .direct => h.get? "Date"
    | .awaited => (h.get? "Date").filter (!·.isEmpty)
  match text with
  | some t => (MailDate.timestamp? t).map some
  | none => pure none

/-- The date of an answer, absent when there is none or it is unreadable. -/
def answerTime (style : CallStyle) (h : Headers) : Option Timestamp :=
  match answerDate style h with
  | .ok t => t
  | .error _ => none

/-- A time moved by some seconds, when both exist. -/
def expiryAfter (base : Option Timestamp) (secs : Option Int) : Outcome (Option Timestamp) :=
  match base, secs with
  | some t, some n => (t.addSeconds n).map some
  | _, _ => pure none

/-- The shared expiry (`s-maxage`) and the content expiry (`max-age`) of an answer. The
date is read first, then the shared expiry is computed, then the content expiry. -/
def expiries (style : CallStyle) (h : Headers) :
    Outcome (Option Timestamp × Option Timestamp) := do
  let (shared, content) := maxAges h
  let date ← answerDate style h
  let sharedAt ← expiryAfter date shared
  let contentAt ← expiryAfter date content
  return (sharedAt, contentAt)

end TransitKit.Client
