import TransitKit.Client.Address
import TransitKit.Client.Exchange
import TransitKit.Client.Lifetime
import TransitKit.Catalogue.Endpoints
import TransitKit.Catalogue.Models
import TransitKit.Json.Reader
import TransitKit.Text.Template

/-!
# Calling an endpoint

A call fills the endpoint's address template, resolves it against the base address, sets the
query arguments and sends a GET request asking for JSON. An answer whose status is not 200
becomes an error report with its date, reason, status, address and text; an answer with status
200 becomes a content report with its expiries, its date and its body read into the model of
the endpoint. The steps fail in the order the client takes them.
-/

namespace TransitKit.Client

open Http Time Catalogue

/-- A call of an endpoint. -/
structure EndpointCall where
  baseUrl : String
  uri : String
  model : String
  /-- The positional values as given: a list, one value, or none. -/
  params : Option Json := none
  /-- The query arguments; `none` sends none. -/
  query : Option (List (String × Json)) := none
deriving Inhabited

/-- The positional values of a call: none for an absent or null value, the items of a
list, or the one value given. -/
def positional : Option Json → List Json
  | none | some .null => []
  | some (.arr xs) => xs
  | some v => [v]

/-- The report of an answer whose status is not 200. -/
structure ErrorReport where
  /-- The date of the answer; `none` stands for the current time. -/
  timestamp : Option Timestamp
  exceptionType : String
  statusCode : Int
  status : String
  relativeUri : String
  message : String
deriving Repr, Inhabited

/-- The report of an answer with status 200. -/
structure ContentReport where
  contentExpires : Option Timestamp
  sharedExpires : Option Timestamp
  responseTimestamp : Option Timestamp
  model : String
  kind : ModelKind
  /-- The content as the model holds it: wrapped into a list for a root model. -/
  content : Json
deriving Inhabited

/-- The report of a call. -/
inductive Reply where
  | failure (r : ErrorReport)
  | content (r : ContentReport)
deriving Inhabited

/-- The header fields of a request. -/
def requestFields (token : Option String) : List (String × String) :=
  [("Content-Type", "application/json"), ("Accept", "application/json")] ++
    match token with
    | some t => if t.isEmpty then [] else [("app_key", t)]
    | none => []

/-- The error report of an answer. Its date fails when it is present, not empty and
unreadable. -/
def errorReport (a : Answer) : Outcome ErrorReport := do
  let date := (a.headers.get? "Date").filter (!·.isEmpty)
  let timestamp ← match date with
    | some d => (MailDate.timestamp? d).map fun t => some t.orUtc
    | none => pure none
  return ⟨timestamp, if a.reason.isEmpty then "HTTP Response Error" else a.reason, a.status,
    if a.reason.isEmpty then "Unknown" else a.reason, a.url,
    if a.text.isEmpty then "No response body" else a.text⟩

/-- The content as a model holds it: a root model wraps a value that is not a list. -/
def modelContent (kind : ModelKind) (body : Json) : Json :=
  match kind, body with
  | .root, .arr _ => body
  | .root, v => .arr [v]
  | .object, v => v

/-- The content report of an answer with status 200. -/
def contentReport (style : CallStyle) (model : String) (a : Answer) : Outcome ContentReport := do
  let (shared, content) ← expiries style a.headers
  let stamp := answerTime style a.headers
  let kind ← match modelKind? model with
    | some k => pure k
    | none => throw (.withText .badValue ("No model found with name " ++ model))
  let body ← match Json.parse? a.text with
    | some j => pure j
    | none => throw (.plain .badJson)
  return ⟨content, shared, stamp, model, kind, modelContent kind body⟩

/-- Runs a call: what the backend received, and the report. -/
def EndpointCall.run (c : EndpointCall) (style : CallStyle) (backend : Backend) (net : Network)
    (token : Option String) : Outcome (Sent × Reply) := do
  let location ← Template.fill c.uri (positional c.params)
  let url ← requestUrl c.baseUrl location (c.query.getD [])
  let (sent, answer) ← transmit backend net url (requestFields token) 30
  if answer.status != 200 then
    return (sent, .failure (← errorReport answer))
  return (sent, .content (← contentReport style c.model answer))

/-- The client of a name. -/
def clientNamed? (name : String) : Option ClientSpec :=
  clients.find? (·.name == name)

end TransitKit.Client

namespace TransitKit.Catalogue

open Client

/-- The call an operation makes for keyword arguments. Every argument must name a
parameter and every required parameter must be given; a parameter not given is
`null`. -/
def Operation.bind (op : Operation) (baseUrl : String) (args : List (String × Json)) :
    Outcome EndpointCall := do
  if args.any fun (k, _) => !(op.parameters.any fun (p, _) => p == k) then
    throw (.plain .wrongShape)
  if op.parameters.any fun (p, req) => req && !(args.any fun (k, _) => k == p) then
    throw (.plain .wrongShape)
  let value (p : String) : Json := ((args.find? fun (k, _) => k == p).map (·.2)).getD .null
  return {
    baseUrl := baseUrl
    uri := op.uri
    model := op.model
    params := op.pathArgs.map fun ps => .arr (ps.map value)
    query := op.queryArgs.map fun qs => qs.map fun (q, p) => (q, value p) }

/-- The call that a client's method makes; a method the client does not have is a
missing member. -/
def ClientSpec.callOf (c : ClientSpec) (method : String) (args : List (String × Json)) :
    Outcome EndpointCall :=
  match c.operations.find? (·.name == method) with
  | some op => op.bind c.baseUrl args
  | none => .error (.plain .noSuchMember)

end TransitKit.Catalogue
