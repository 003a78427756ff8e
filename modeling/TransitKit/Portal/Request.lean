import TransitKit.Host.Basic
import TransitKit.Json.DecodeError
import TransitKit.Url.Prepared
import TransitKit.Url.Percent
import TransitKit.Text.Pieces

/-!
# Requests to the API portal

The portal is read with plain GET requests. The query parameters are form-encoded and
added to any query the address already has, and the address is prepared as the plain
client prepares it (`Url.prepared?`). The request is sent into the host's network, which
notes it, and the answer is read:

* a connection that fails is a connection failure;
* a status from 400 to 599 is an HTTP failure whose text names the status, its class
  (`Client Error` below 500, `Server Error` from 500), the reason and the address;
* otherwise the body must be JSON; its value is the result.
-/

namespace TransitKit.Portal

/-- The text of a connection that the network refuses. -/
def refusedText : String := "fake connection failure"

/-- Splits a text at the first `c`: the part before it, and the part after it if `c`
occurs. -/
def splitFirst (c : Char) (s : String) : String × Option String :=
  match Text.splitAt c s with
  | [] => (s, none)
  | [a] => (a, none)
  | a :: rest => (a, some ((String.singleton c).intercalate rest))

/-- The address a request for `url` with query parameters goes to: the encoded
parameters follow an existing query after `&`, or make the query. -/
def requestAddress (url : String) (params : List (String × String)) : Outcome String :=
  let (beforeFragment, fragment) := splitFirst '#' url
  let (path, query) := splitFirst '?' beforeFragment
  let encoded := Url.formEncode params
  let query := match query with
    | some q => if q.isEmpty then encoded else q ++ "&" ++ encoded
    | none => encoded
  let fragment := match fragment with
    | some f => if f.isEmpty then "" else "#" ++ f
    | none => ""
  Url.prepared? (path ++ "?" ++ query ++ fragment)

/-- The text of the failure that an answer's status stands for, if any. -/
def statusFailure? (status : Int) (reason url : String) : Option String :=
  let failureText (kind : String) := toString status ++ " " ++ kind ++ ": " ++ reason ++ " for url: " ++ url
  if 400 ≤ status ∧ status < 500 then some (failureText "Client Error")
  else if 500 ≤ status ∧ status < 600 then some (failureText "Server Error")
  else none

/-- The failures that belong to sending a request and reading its answer. -/
def isRequestFailure (k : FaultKind) : Bool :=
  k == .httpFailed || k == .connectionFailed || k == .badJson || k == .badUrl ||
    k == .missingScheme

/-- The address a request for `url` goes to, or the failure of an address that cannot be
prepared. -/
def addressFor (url : String) (params : List (String × String)) : Except Failure String :=
  match requestAddress url params with
  | .ok a => .ok a
  | .error f => .error ⟨f.kind, f.message.getD ("Invalid URL " ++ quoteText url)⟩

/-- Reads the answer to a request sent to `address` as JSON. -/
def readAnswer (answer : Client.Canned) (address : String) : Except Failure Json := do
  if answer.fails then throw ⟨.connectionFailed, refusedText⟩
  if let some text := statusFailure? answer.status answer.reason address then
    throw ⟨.httpFailed, text⟩
  match Json.parse? answer.body with
  | some j => return j
  | none => throw ⟨.badJson, JsonReader.faultText answer.body⟩

/-- Sends a GET request and reads its answer as JSON. -/
def getJson (url : String) (params : List (String × String)) : Job Json := do
  let address ← Host.lift (addressFor url params)
  Host.noteRequest address
  let answer := (← get).net.answerFor address
  Host.lift (readAnswer answer address)

theorem statusFailure?_ok (reason url : String) : statusFailure? 200 reason url = none := by
  simp [statusFailure?]

end TransitKit.Portal
