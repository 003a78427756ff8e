import TransitKit.Client.Call

/-!
# A tour of the Line client

The tour shows the Line client at work with five calls, without a key: the modes of
transport (twice), the bus lines, the status of the tube lines and the route sequence of
the Northern line in both directions. Each call that is answered with an error prints
`Error getting <what>: <message>` and the tour goes on. A call that fails outright ends
the tour with its fault, after its request was sent.

A call answered with content prints fields of the typed model it was read into; the
tour stops there, since reading content into typed models is not part of this library.
-/

namespace TransitKit.Client

open Catalogue

/-- The calls of the tour: what each gets, the method of the Line client, and its
arguments. -/
def tourCalls : List (String × String × List (String × Json)) :=
  [("modes", "MetaModes", []),
   ("meta modes", "MetaModes", []),
   ("bus modes", "GetByModeByPathModes", [("modes", .str "bus")]),
   ("tube status", "StatusByModeByPathModesQueryDetailQuerySeverityLevel", [("modes", .str "tube")]),
   ("route sequence", "RouteSequenceByPathIdPathDirectionQueryServiceTypesQueryExcludeCrowding",
     [("id", .str "northern"), ("direction", .str "all")])]

/-- How the tour ended: after every call, with a fault, or at a call answered with
content. -/
inductive TourEnd where
  | finished
  | failed (f : Fault)
  | content
deriving Inhabited

/-- What the tour sent, what it printed, and how it ended. -/
structure TourRun where
  sent : List Sent
  printed : String
  ending : TourEnd
deriving Inhabited

/-- What the canonical backend receives for a call without a key. -/
def sentBy (c : EndpointCall) : Outcome Sent := do
  let location ← Template.fill c.uri (positional c.params)
  let url ← requestUrl c.baseUrl location (c.query.getD [])
  let url ← Url.canonical? url
  return .wire "GET" url (reportedFields (requestFields none))

/-- The rest of the tour from a list of calls, after what was sent and printed. -/
def tourFrom (client : ClientSpec) (net : Network) (sent : List Sent) (printed : String) :
    List (String × String × List (String × Json)) → TourRun
  | [] => ⟨sent, printed, .finished⟩
  | (what, method, args) :: rest =>
    match client.callOf method args with
    | .error f => ⟨sent, printed, .failed f⟩
    | .ok call =>
      match call.run .direct .canonical net none with
      | .ok (s, .failure r) =>
        tourFrom client net (sent ++ [s]) (printed ++ "Error getting " ++ what ++ ": " ++ r.message ++ "\n") rest
      | .ok (s, .content _) => ⟨sent ++ [s], printed, .content⟩
      | .error f =>
        let sent := match sentBy call with
          | .ok s => sent ++ [s]
          | .error _ => sent
        ⟨sent, printed, .failed f⟩

/-- The tour against a network. -/
def tour (net : Network) : TourRun :=
  match clientNamed? "LineClient" with
  | some client => tourFrom client net [] "" tourCalls
  | none => ⟨[], "", .failed (.plain .noSuchMember)⟩

theorem tourFrom_nil (client : ClientSpec) (net : Network) (sent : List Sent) (printed : String) :
    (tourFrom client net sent printed []).printed = printed := rfl

end TransitKit.Client
