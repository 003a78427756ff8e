import TransitKit.Url.Parts
import TransitKit.Url.Percent
import TransitKit.Json.Literal
import TransitKit.Fault

/-!
# Request addresses

The address of a request is the filled endpoint template resolved against the base
address, with its query replaced by the query arguments: arguments whose value is
absent (`null`) are left out, and the others are form-encoded from their plain text
(`True`, `1.5`, `[1, 'a']`). A query written into the template is dropped; a fragment
is kept.
-/

namespace TransitKit.Client

open Url

/-- The query arguments that are sent: those whose value is not `null`. -/
def sentArguments (args : List (String × Json)) : List (String × Json) :=
  args.filter fun (_, v) => !v.isNull

/-- The form encoding of query arguments, from the plain text of each value. -/
def queryText (args : List (String × Json)) : String :=
  formEncode ((sentArguments args).map fun (k, v) => (k, v.text))

/-- The address of a request: the location resolved against the base, with the query
replaced by the query arguments. -/
def requestUrl (base location : String) (args : List (String × Json)) : Outcome String :=
  match resolve? base location with
  | none => .error (.plain .badValue)
  | some path =>
    match split? path with
    | none => .error (.plain .badValue)
    | some p => .ok { p with query := queryText args }.join

theorem queryText_nil : queryText [] = "" := by
  simp [queryText, sentArguments, formEncode]

end TransitKit.Client
