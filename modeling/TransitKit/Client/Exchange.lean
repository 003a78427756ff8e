import TransitKit.Http.Headers
import TransitKit.Http.Status
import TransitKit.Url.Canonical
import TransitKit.Url.Prepared
import TransitKit.Text.Pieces

/-!
# Exchanges with the network

A request leaves the client through a backend and comes back as an answer. The network is a
table of canned answers, matched by address with or without its query, with a fallback. The
recorder notes what it was given; the canonical and the prepared backends send the canonical
or prepared form of the address, keep only the fields the client sets, and differ in the
answers they reject and in how they read a field given twice.
-/

namespace TransitKit.Client

open Http

/-- A canned answer of the network. -/
structure Canned where
  status : Int := 200
  headers : Headers := Headers.empty
  body : String := ""
  reason : String := ""
  url : Option String := none
  fails : Bool := false
deriving Repr, Inhabited

/-- The network: routes by address, and the answer for any other request. -/
structure Network where
  routes : List (String × Canned) := []
  fallback : Canned := {}
deriving Repr, Inhabited

/-- An address without its query. -/
def withoutQuery (url : String) : String := (Text.splitAt '?' url).headD url

/-- The canned answer for an address. -/
def Network.answerFor (n : Network) (url : String) : Canned :=
  match n.routes.find? fun (u, _) => u == url || u == withoutQuery url with
  | some (_, c) => c
  | none => n.fallback

/-- The ways a request can leave the client. -/
inductive Backend where
  | recorder
  | canonical
  | prepared
deriving Repr, BEq, DecidableEq, Inhabited

/-- What a backend received: the recorder notes address, fields and time limit; a
sending backend notes method, address and fields. -/
inductive Sent where
  | recorded (url : String) (headers : List (String × String)) (timeout : Nat)
  | wire (method : String) (url : String) (headers : List (String × String))
deriving Repr, Inhabited

/-- An answer as the client reads it. -/
structure Answer where
  status : Int
  headers : Headers
  text : String
  url : String
  reason : String
deriving Repr, Inhabited

/-- The header fields a sending backend reports. -/
def reportedFields (headers : List (String × String)) : List (String × String) :=
  (headers.map fun (k, v) => (String.ofList (k.toList.map Char.toLower), v)).filter fun (k, _) =>
    k == "accept" || k == "content-type" || k == "app_key"

/-- Sorts header fields by name. -/
def sortFields (headers : List (String × String)) : List (String × String) :=
  headers.mergeSort fun a b => decide (a.1 ≤ b.1)

/-- Sends a GET request through a backend. A connection that fails is reported by the
kind of fault of that backend. -/
def transmit (b : Backend) (net : Network) (url : String) (headers : List (String × String))
    (timeout : Nat) : Outcome (Sent × Answer) := do
  match b with
  | .recorder =>
    let c := net.fallback
    return (.recorded url (sortFields headers) timeout,
      ⟨c.status, c.headers, c.body, c.url.getD url, c.reason⟩)
  | .canonical =>
    let url ← Url.canonical? url
    let c := net.answerFor url
    if c.fails then throw (.plain .connectFailed)
    return (.wire "GET" url (reportedFields headers),
      ⟨c.status, c.headers, c.body, url, reasonPhrase c.status⟩)
  | .prepared =>
    let url ← Url.prepared? url
    let c := net.answerFor url
    if c.fails then throw (.plain .connectionFailed)
    return (.wire "GET" url (reportedFields headers),
      ⟨c.status, c.headers, c.body, url, c.reason⟩)

/-- The answer a backend makes of a status, header fields, body, address and reason:
the canonical backend keeps the canonical form of the address and the registered
reason phrase; the others keep both as given. -/
def Backend.answerOf (b : Backend) (status : Int) (headers : Headers)
    (body url reason : String) : Outcome Answer :=
  match b with
  | .canonical => do
    let url ← Url.canonical? url
    return ⟨status, headers, body, url, reasonPhrase status⟩
  | .prepared | .recorder => .ok ⟨status, headers, body, url, reason⟩

/-- The fault a backend raises when asked to reject an answer by its status: the
canonical backend accepts only codes from 200 to 299, the prepared backend rejects
codes from 400 to 599, and the recorder accepts every code. -/
def Backend.statusFault? (b : Backend) (status : Int) : Option FaultKind :=
  match b with
  | .canonical => if isSuccess status then none else some .statusFailed
  | .prepared => if 400 ≤ status && status < 600 then some .httpFailed else none
  | .recorder => none

/-- The value of a header field as a backend reports it: the canonical backend joins the
values of a field given several times, the others keep the last. -/
def Backend.header? (b : Backend) (h : Headers) (name : String) : Option String :=
  match b with
  | .canonical => h.joined? name
  | .prepared | .recorder => h.get? name

end TransitKit.Client
